import Mathlib.Tactic.Common
import OperatorDaemon.Text.Utf8

/-!
# Reading what was written as UTF-8

The bytes of a text are read as its characters, one piece for each of them. So no other text has these bytes.
-/

namespace OperatorDaemon.Utf8

/-! ### Writing -/

lemma encodeChar_of_ascii {c : Char} (h : c.toNat < 0x80) : encodeChar c = [UInt8.ofNat c.toNat] :=
  if_pos h

lemma encode_append (cs cs' : List Char) : encode (cs ++ cs') = encode cs ++ encode cs' :=
  List.flatMap_append

lemma length_encode_of_ascii {cs : List Char} (h : ∀ c ∈ cs, c.toNat < 0x80) :
    (encode cs).length = cs.length := by
  induction cs with
  | nil => rfl
  | cons c cs ih =>
    rw [encode_cons, encodeChar_of_ascii (h c List.mem_cons_self), List.singleton_append, List.length_cons,
      ih fun c' hc' => h c' (List.mem_cons_of_mem _ hc'), List.length_cons]

/-- The bytes of a character beyond ASCII begin with one beyond ASCII. -/
lemma exists_encodeChar_eq_cons {c : Char} (h : 0x80 ≤ c.toNat) :
    ∃ b rest, encodeChar c = b :: rest ∧ 0x80 ≤ b.toNat := by
  have hvalid : c.toNat < 0xD800 ∨ 0xDFFF < c.toNat ∧ c.toNat < 0x110000 := c.valid
  have hbyte {n : Nat} (hn : n < 0x100) : (UInt8.ofNat n).toNat = n := UInt8.toNat_ofNat_of_lt hn
  rw [encodeChar]
  generalize c.toNat = n at h hvalid
  rw [if_neg (by omega)]
  split_ifs with htwo hthree
  · exact ⟨_, _, rfl, by rw [hbyte (by omega)]; omega⟩
  · exact ⟨_, _, rfl, by rw [hbyte (by omega)]; omega⟩
  · exact ⟨_, _, rfl, by rw [hbyte (by omega)]; omega⟩

/-- Bytes that begin with that of an ASCII character are those of a text that begins with the character. -/
lemma exists_of_encode_eq_cons {c : Char} (hc : c.toNat < 0x80) {cs : List Char} {rest : List UInt8}
    (h : encode cs = UInt8.ofNat c.toNat :: rest) : ∃ cs', cs = c :: cs' ∧ encode cs' = rest := by
  have hbyte {n : Nat} (hn : n < 0x80) : (UInt8.ofNat n).toNat = n :=
    UInt8.toNat_ofNat_of_lt (show n < 0x100 by omega)
  cases cs with
  | nil => cases h
  | cons d cs =>
    rw [encode_cons] at h
    by_cases hd : d.toNat < 0x80
    · rw [encodeChar_of_ascii hd, List.singleton_append] at h
      obtain ⟨hfirst, hrest⟩ := List.cons.inj h
      have hsame : d.toNat = c.toNat := by rw [← hbyte hd, hfirst, hbyte hc]
      exact ⟨cs, by rw [Char.toNat_inj.mp hsame], hrest⟩
    · obtain ⟨b, bs, hbytes, hb⟩ := exists_encodeChar_eq_cons (Nat.le_of_not_lt hd)
      rw [hbytes, List.cons_append] at h
      rw [(List.cons.inj h).1, hbyte hc] at hb
      omega

/-! ### Reading -/

lemma piecesFrom_start {b : UInt8} {p : Pending} (h : start b = .inr p) (rest : List UInt8) :
    piecesFrom none (b :: rest) = piecesFrom (some p) rest := by
  rw [piecesFrom, h]

/-- A byte behind the first of a character adds six bits to it. -/
lemma piecesFrom_tail {p : Pending} {bits : Nat} (hbits : bits < 0x40)
    (hlow : p.low.toNat ≤ 0x80 + bits) (hhigh : 0x80 + bits ≤ p.high.toNat) (rest : List UInt8) :
    piecesFrom (some p) (UInt8.ofNat (0x80 + bits) :: rest) =
      if p.owed = 1 then .char (Char.ofNat (p.value * 0x40 + bits)) :: piecesFrom none rest
      else piecesFrom (some ⟨p.value * 0x40 + bits, p.owed - 1, 0x80, 0xBF, p.size + 1⟩) rest := by
  have hbyte : (UInt8.ofNat (0x80 + bits)).toNat = 0x80 + bits :=
    UInt8.toNat_ofNat_of_lt (show 0x80 + bits < 0x100 by omega)
  have hrange : p.low ≤ UInt8.ofNat (0x80 + bits) ∧ UInt8.ofNat (0x80 + bits) ≤ p.high := by
    simp only [UInt8.le_iff_toNat_le, hbyte]
    exact ⟨hlow, hhigh⟩
  rw [piecesFrom, if_pos hrange, hbyte, Nat.add_sub_cancel_left]

/-- The last byte of a character. -/
lemma piecesFrom_last (value size : Nat) {bits : Nat} (hbits : bits < 0x40) (rest : List UInt8) :
    piecesFrom (some ⟨value, 1, 0x80, 0xBF, size⟩) (UInt8.ofNat (0x80 + bits) :: rest) =
      .char (Char.ofNat (value * 0x40 + bits)) :: piecesFrom none rest :=
  piecesFrom_tail (p := ⟨value, 1, 0x80, 0xBF, size⟩) hbits (Nat.le_add_right 0x80 bits)
    (show _ ≤ 0xBF by omega) rest

/-- The first of two bytes. -/
lemma start_two {n : Nat} (hn : 0x80 ≤ n) (hn' : n < 0x800) :
    start (UInt8.ofNat (0xC0 + n / 0x40)) = .inr ⟨n / 0x40, 1, 0x80, 0xBF, 1⟩ := by
  have hbyte : (UInt8.ofNat (0xC0 + n / 0x40)).toNat = 0xC0 + n / 0x40 :=
    UInt8.toNat_ofNat_of_lt (show _ < 0x100 by omega)
  simp only [start, hbyte]
  rw [if_neg (by omega), if_neg (by omega), if_pos (by omega), Nat.add_sub_cancel_left]

/-- The first of three bytes leaves room for the second one. -/
lemma start_three {n : Nat} (hn : 0x800 ≤ n) (hn' : n < 0x10000) (hpair : n < 0xD800 ∨ 0xDFFF < n) :
    ∃ low high, start (UInt8.ofNat (0xE0 + n / 0x1000)) = .inr ⟨n / 0x1000, 2, low, high, 1⟩ ∧
      low.toNat ≤ 0x80 + n / 0x40 % 0x40 ∧ 0x80 + n / 0x40 % 0x40 ≤ high.toNat := by
  have hbyte : (UInt8.ofNat (0xE0 + n / 0x1000)).toNat = 0xE0 + n / 0x1000 :=
    UInt8.toNat_ofNat_of_lt (show _ < 0x100 by omega)
  simp only [start, hbyte]
  rw [if_neg (by omega), if_neg (by omega), if_neg (by omega)]
  by_cases hleast : n < 0x1000
  · rw [if_pos (by omega), Nat.div_eq_of_lt hleast]
    exact ⟨0xA0, 0xBF, rfl, show 0xA0 ≤ _ by omega, show _ ≤ 0xBF by omega⟩
  rw [if_neg (by omega)]
  by_cases hbelow : n / 0x1000 = 0xD
  · rw [if_pos (by omega), hbelow]
    exact ⟨0x80, 0x9F, rfl, show 0x80 ≤ _ by omega, show _ ≤ 0x9F by omega⟩
  · rw [if_neg (by omega), if_pos (by omega), Nat.add_sub_cancel_left]
    exact ⟨0x80, 0xBF, rfl, show 0x80 ≤ _ by omega, show _ ≤ 0xBF by omega⟩

/-- The first of four bytes leaves room for the second one. -/
lemma start_four {n : Nat} (hn : 0x10000 ≤ n) (hn' : n < 0x110000) :
    ∃ low high, start (UInt8.ofNat (0xF0 + n / 0x40000)) = .inr ⟨n / 0x40000, 3, low, high, 1⟩ ∧
      low.toNat ≤ 0x80 + n / 0x1000 % 0x40 ∧ 0x80 + n / 0x1000 % 0x40 ≤ high.toNat := by
  have hbyte : (UInt8.ofNat (0xF0 + n / 0x40000)).toNat = 0xF0 + n / 0x40000 :=
    UInt8.toNat_ofNat_of_lt (show _ < 0x100 by omega)
  simp only [start, hbyte]
  rw [if_neg (by omega), if_neg (by omega), if_neg (by omega), if_neg (by omega), if_neg (by omega),
    if_neg (by omega)]
  by_cases hleast : n < 0x40000
  · rw [if_pos (by omega), Nat.div_eq_of_lt hleast]
    exact ⟨0x90, 0xBF, rfl, show 0x90 ≤ _ by omega, show _ ≤ 0xBF by omega⟩
  rw [if_neg (by omega)]
  by_cases hgreatest : n < 0x100000
  · rw [if_pos (by omega), Nat.add_sub_cancel_left]
    exact ⟨0x80, 0xBF, rfl, show 0x80 ≤ _ by omega, show _ ≤ 0xBF by omega⟩
  · rw [if_neg (by omega), if_pos (by omega), show n / 0x40000 = 4 by omega]
    exact ⟨0x80, 0x8F, rfl, show 0x80 ≤ _ by omega, show _ ≤ 0x8F by omega⟩

/-- A character is read from its bytes, whatever comes behind them. -/
lemma piecesFrom_encodeChar (c : Char) (rest : List UInt8) :
    piecesFrom none (encodeChar c ++ rest) = .char c :: piecesFrom none rest := by
  have hvalid : c.toNat < 0xD800 ∨ 0xDFFF < c.toNat ∧ c.toNat < 0x110000 := c.valid
  have hchar : Char.ofNat c.toNat = c := Char.ofNat_toNat c
  rw [encodeChar]
  generalize c.toNat = n at hvalid hchar
  subst hchar
  by_cases hone : n < 0x80
  · have hbyte : (UInt8.ofNat n).toNat = n := UInt8.toNat_ofNat_of_lt (show n < 0x100 by omega)
    rw [if_pos hone]
    simp [piecesFrom, start, hbyte, hone]
  rw [if_neg hone]
  have hbits (m : Nat) : m % 0x40 < 0x40 := Nat.mod_lt m (by decide)
  by_cases htwo : n < 0x800
  · rw [if_pos htwo, List.cons_append, List.cons_append, List.nil_append,
      piecesFrom_start (start_two (by omega) htwo), piecesFrom_last _ _ (hbits n)]
    congr 3
    omega
  rw [if_neg htwo]
  by_cases hthree : n < 0x10000
  · obtain ⟨low, high, hstart, hlow, hhigh⟩ := start_three (by omega) hthree (by omega)
    have hsecond := piecesFrom_tail (p := ⟨n / 0x1000, 2, low, high, 1⟩) (hbits _) hlow hhigh
    rw [if_pos hthree, List.cons_append, List.cons_append, List.cons_append, List.nil_append,
      piecesFrom_start hstart, hsecond]
    refine (piecesFrom_last _ _ (hbits n) rest).trans ?_
    congr 3
    dsimp only
    omega
  · obtain ⟨low, high, hstart, hlow, hhigh⟩ := start_four (n := n) (by omega) (by omega)
    have hsecond := piecesFrom_tail (p := ⟨n / 0x40000, 3, low, high, 1⟩) (hbits _) hlow hhigh
    have hthird := piecesFrom_tail (p := ⟨n / 0x40000 * 0x40 + n / 0x1000 % 0x40, 2, 0x80, 0xBF, 2⟩)
      (hbits (n / 0x40)) (Nat.le_add_right 0x80 _) (show _ ≤ 0xBF by omega)
    rw [if_neg hthree, List.cons_append, List.cons_append, List.cons_append, List.cons_append,
      List.nil_append, piecesFrom_start hstart, hsecond]
    refine (hthird _).trans ((piecesFrom_last _ _ (hbits n) rest).trans ?_)
    congr 3
    dsimp only
    omega

/-- The pieces of a text are its characters. -/
theorem pieces_encode (cs : List Char) : pieces (encode cs) = cs.map .char := by
  rw [pieces]
  induction cs with
  | nil => rfl
  | cons c cs ih => rw [encode_cons, piecesFrom_encodeChar, ih, List.map_cons]

@[simp] theorem symbols_encode (cs : List Char) : symbols (encode cs) = cs.map some := by
  rw [symbols, pieces_encode, List.flatMap_map]
  exact List.map_eq_flatMap.symm

@[simp] theorem symbols_bytes (s : String) : symbols (bytes s) = s.toList.map some :=
  symbols_encode s.toList

/-- A text is read from its bytes. -/
@[simp] theorem decode_bytes (s : String) : decode (bytes s) = .ok s := by
  have hchars (index : Nat) (cs : List Char) : charsOfPieces index (cs.map .char) = .ok cs := by
    induction cs generalizing index with
    | nil => rfl
    | cons c cs ih =>
      rw [List.map_cons, charsOfPieces, ih]
      rfl
  rw [decode, bytes, pieces_encode, hchars, Except.map, String.ofList_toList]

/-- A character whose bytes stand in front is read. -/
lemma mem_of_decode {c : Char} {rest : List UInt8} {s : String} (h : decode (encodeChar c ++ rest) = .ok s) :
    c ∈ s.toList := by
  rw [decode, pieces, piecesFrom_encodeChar, charsOfPieces] at h
  cases hrest : charsOfPieces (0 + (encodeChar c).length) (piecesFrom none rest) with
  | error fault =>
    rw [hrest] at h
    cases h
  | ok cs =>
    rw [hrest] at h
    cases h
    simp

/-- No two texts have the same bytes. -/
theorem bytes_injective : Function.Injective bytes := by
  intro s s' h
  have hread := decode_bytes s
  rw [h, decode_bytes] at hread
  exact (Except.ok.inj hread).symm

end OperatorDaemon.Utf8
