import Mathlib.Data.List.Forall2
import OperatorDaemon.Proofs.Ethereum.Checksum
import OperatorDaemon.Proofs.Url.Path
import OperatorDaemon.Service.Request
import OperatorDaemon.Text.Blank

/-!
# Where a call goes

The URL of a call is that of the service with the version and the names in the call behind its path. A name can
be read back from it, and calls that are addressed differently go to different URLs, as long as the deployment is
a plain text: `endpoint_of_plain`. A deployment of dots or with a tab in it goes elsewhere.
-/

namespace OperatorDaemon

/-! ### Addresses -/

namespace Address

lemma lt_of_mem_shownDigits {a : Address} {c : Char} (h : c ∈ a.shownDigits) : ' ' < c := by
  have hdigits : ∀ n < 16, ' ' < hexDigit n := by decide
  have hlower : asciiLower c ∈ Hex.encodeChars a.bytes := by
    rw [← map_asciiLower_shownDigits]
    exact List.mem_map_of_mem h
  obtain ⟨n, hn, hc⟩ := Hex.exists_hexDigit_of_mem hlower
  unfold asciiLower at hc
  split_ifs at hc with hcapital
  · exact Nat.lt_of_lt_of_le (show ' '.toNat < 'A'.toNat by decide) hcapital.1
  · exact hc ▸ hdigits n hn

lemma isPlainSegment_checksummed (kind : SchemeKind) (a : Address) :
    Url.IsPlainSegment kind a.checksummed := by
  refine .of_graphic (List.all_eq_true.mpr fun c hc => decide_eq_true ?_) (by rw [length_checksummed]; decide)
  rw [toList_checksummed, List.mem_cons, List.mem_cons] at hc
  obtain rfl | rfl | hc := hc
  · decide
  · decide
  · exact lt_of_mem_shownDigits hc

end Address

namespace Service

open Url (IsPlainSegment)

/-! ### The names in a call -/

namespace Call

/-- The deployment that a call is about. -/
def deployment? : Call → Option String
  | nonce | login _ | nodeAddress _ => none
  | vaults deployment | vaultValidators deployment _ | validatorCounts deployment _
  | postValidators deployment _ _ | whitelisting deployment | postWhitelisting deployment
  | depositSignature deployment _ | minipoolValidators deployment | uploadExits deployment _ =>
    some deployment

lemma deployment?_eq (call : Call) : call.deployment? = call.segments[2]? := by
  cases call <;> rfl

/-- The names that calls are made of apart from deployments and vaults. -/
def names : List String :=
  ["core", "nonce", "login", "node-address", "modules", "stakewise", "vaults", "validators", "meta",
    "constellation", "whitelist", "minipool", "deposit-signature"]

lemma isPlainSegment_of_mem_names {kind : SchemeKind} {text : String} (h : text ∈ names) :
    IsPlainSegment kind text := by
  have hnames : ∀ text ∈ names, text.toList.all (' ' < ·) ∧ 2 < text.toList.length := by decide
  obtain ⟨hgraphic, hlength⟩ := hnames text h
  exact .of_graphic hgraphic hlength

lemma mem_segments {call : Call} {text : String} (h : text ∈ call.segments) :
    text ∈ names ∨ text ∈ call.deployment? ∨ ∃ vault : Address, text = vault.checksummed := by
  cases call <;>
    simp only [segments, deployment?, names, List.mem_cons, List.not_mem_nil, Option.mem_def] at h ⊢ <;>
    grind

/-- The names that address a call are plain texts if that of its deployment is one. -/
lemma isPlainSegment_of_mem_segments {kind : SchemeKind} {call : Call}
    (hdeployment : ∀ d ∈ call.deployment?, IsPlainSegment kind d) {text : String}
    (h : text ∈ call.segments) : IsPlainSegment kind text := by
  obtain hname | hmem | ⟨vault, rfl⟩ := mem_segments h
  · exact isPlainSegment_of_mem_names hname
  · exact hdeployment text hmem
  · exact vault.isPlainSegment_checksummed kind

end Call

/-! ### The URL of a call -/

namespace Client

open Url (front)

variable {c : Client} {text : String}

lemma toList_version : version.toList = ['v', '3'] := by decide

lemma isPlainSegment_version (kind : SchemeKind) : IsPlainSegment kind version where
  unbroken c hc := by
    rw [toList_version, List.mem_pair] at hc
    obtain rfl | rfl := hc <;> decide
  not_dot := by decide
  not_dots := by decide
  not_drive _ letter _ := by
    rw [toList_version]
    intro h
    cases h

lemma segmentText_version (kind : SchemeKind) : Url.segmentText kind version = version := by
  cases kind <;> decide

/-- The path of a client has segments. -/
lemma exists_path_eq (c : Client) : ∃ segments, c.base.path = .segments segments := by
  have hbase := c.canBeBase
  unfold Url.canBeBase at hbase
  split at hbase
  · cases hbase
  · rename_i segments hpath
    exact ⟨segments, hpath⟩

lemma parse_of_ofText (h : ofText text = .ok c) : Url.parse text = .ok c.base := by
  unfold ofText at h
  split at h
  · cases h
  · rename_i base hparse
    split_ifs at h
    rw [hparse, ← Except.ok.inj h]

lemma isPlainSegment_of_mem_cons {kind : SchemeKind} {names : List String}
    (h : ∀ name ∈ names, IsPlainSegment kind name) :
    ∀ name ∈ version :: names, IsPlainSegment kind name :=
  List.forall_mem_cons.mpr ⟨isPlainSegment_version kind, h⟩

lemma length_encodeSegment_version (kind : SchemeKind) : (Url.encodeSegment kind version).length = 2 := by
  cases kind <;> decide

/-- For a client of the service at the URL that some text stands for. Plain texts become the last segments of the
path, behind those of the URL and the version, and each of them can be read back from its segment. Nothing else
of the URL changes. A text that is not plain does not become such a segment. Other plain texts make another URL, so
calls whose deployments are plain go to the same URL only if all their names are the same. -/
theorem endpoint_of_plain (hclient : ofText text = .ok c) :
    ∃ base, c.base.path = .segments base ∧
      (∀ names, (∀ name ∈ names, IsPlainSegment c.base.kind name) →
        ∃ parts, c.endpoint names = { c.base with path := .segments (front base ++ version :: parts) } ∧
          List.Forall₂ (fun name part =>
            '/' ∉ part.toList ∧ Percent.decode (Utf8.bytes part) = Utf8.bytes name) names parts) ∧
      (∀ name part, c.endpoint [name] = { c.base with path := .segments (front base ++ [version, part]) } →
        Percent.decode (Utf8.bytes part) = Utf8.bytes name → IsPlainSegment c.base.kind name) ∧
      (∀ names names', (∀ name ∈ names, IsPlainSegment c.base.kind name) →
        (∀ name ∈ names', IsPlainSegment c.base.kind name) →
          (c.endpoint names).text = (c.endpoint names').text → names = names') ∧
      ∀ call call' : Call, (∀ d ∈ call.deployment?, IsPlainSegment c.base.kind d) →
        (∀ d ∈ call'.deployment?, IsPlainSegment c.base.kind d) →
          (c.endpoint call.segments).text = (c.endpoint call'.segments).text →
            call.segments = call'.segments ∧ call.deployment? = call'.deployment? := by
  obtain ⟨base, hpath⟩ := c.exists_path_eq
  have htidy (hfile : c.base.kind = .file) : Url.IsTidy base :=
    Url.isTidy_of_parse (parse_of_ofText hclient) hfile hpath
  have hversion := length_encodeSegment_version c.base.kind
  have hinj (names names' : List String) (hplain : ∀ name ∈ names, IsPlainSegment c.base.kind name)
      (hplain' : ∀ name ∈ names', IsPlainSegment c.base.kind name)
      (h : (c.endpoint names).text = (c.endpoint names').text) : names = names' :=
    Url.eq_of_text_extend_eq hpath htidy hversion (isPlainSegment_of_mem_cons hplain)
      (isPlainSegment_of_mem_cons hplain') h
  refine ⟨base, hpath, fun names hplain => ?_, fun name part h hread => ?_, hinj,
    fun call call' hplain hplain' h => ?_⟩
  · refine ⟨names.map (Url.segmentText c.base.kind), ?_, ?_⟩
    · rw [endpoint, Url.extend_of_plain hpath htidy hversion (isPlainSegment_of_mem_cons hplain),
        List.map_cons, segmentText_version]
    · refine List.forall₂_map_right_iff.mpr (List.forall₂_same.mpr fun name hname => ?_)
      exact ⟨Url.slash_not_mem_segmentText _ name, (hplain name hname).decode_segmentText⟩
  · rw [← segmentText_version c.base.kind] at h
    exact .of_extend hpath htidy hversion (isPlainSegment_version _) h hread
  · have hsegments := hinj _ _ (fun _ => Call.isPlainSegment_of_mem_segments hplain)
      (fun _ => Call.isPlainSegment_of_mem_segments hplain') h
    rw [Call.deployment?_eq, Call.deployment?_eq, hsegments]
    exact ⟨rfl, rfl⟩

/-- A service behind a path that ends with a slash. -/
def behindPath : Client where
  base :=
    { scheme := "http", authority := some { host := some (.name "nodeset.test") },
      path := .segments ["api", ""], query := none, fragment := none }
  canBeBase := rfl

lemma ofText_behindPath : ofText "http://nodeset.test/api/" = .ok behindPath := by
  have hparse : Url.parse "http://nodeset.test/api/" = .ok behindPath.base := by decide +kernel
  rw [ofText, hparse]
  rfl

/-- A deployment with a slash and an escape in its name stays one segment. -/
theorem endpoint_of_plain_slash :
    ofText "http://nodeset.test/api/" = .ok behindPath ∧
      (∀ d ∈ (Call.whitelisting "a/b%2F").deployment?, IsPlainSegment behindPath.base.kind d) ∧
      ∃ parts, behindPath.endpoint (Call.whitelisting "a/b%2F").segments =
          { behindPath.base with path := .segments (["api"] ++ version :: parts) } ∧
        List.Forall₂ (fun name part =>
          '/' ∉ part.toList ∧ Percent.decode (Utf8.bytes part) = Utf8.bytes name)
          ["modules", "constellation", "a/b%2F", "whitelist"] parts := by
  have hplain : ∀ d ∈ (Call.whitelisting "a/b%2F").deployment?, IsPlainSegment behindPath.base.kind d := by
    rintro d ⟨rfl⟩
    exact .of_graphic (by decide) (by decide)
  obtain ⟨base, hpath, hparts, -, -, -⟩ := endpoint_of_plain ofText_behindPath
  obtain rfl : ["api", ""] = base := Url.Path.segments.inj hpath
  exact ⟨ofText_behindPath, hplain, hparts _ fun _ => Call.isPlainSegment_of_mem_segments hplain⟩

/-- Other deployments go elsewhere: a tab is dropped, a dot leaves out the deployment, and two dots with a tab
between them drop the name in front of it. -/
theorem endpoint_of_tab_and_dots :
    ofText "http://nodeset.test/api/" = .ok behindPath ∧
      (∀ d ∈ ["hole\tsky", ".", "..", ".\t."], trim d = d ∧ !isBlankText d) ∧
      behindPath.endpoint (Call.vaults "hole\tsky").segments =
        behindPath.endpoint (Call.vaults "holesky").segments ∧
      (behindPath.endpoint (Call.vaults ".").segments).path.text = "/api/v3/modules/stakewise/vaults" ∧
      (behindPath.endpoint (Call.vaults "..").segments).path.text = "/api/v3/modules/stakewise/vaults" ∧
      (behindPath.endpoint (Call.vaults ".\t.").segments).path.text = "/api/v3/modules//vaults" := by
  refine ⟨ofText_behindPath, ?_⟩
  decide +kernel

end Client

end Service

end OperatorDaemon
