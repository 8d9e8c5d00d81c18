import OperatorDaemon.Proofs.Api.Effect
import OperatorDaemon.Proofs.Daemon.Identity
import OperatorDaemon.Proofs.Module.Success
import OperatorDaemon.Proofs.Session.Order

/-!
# What is sent is what is signed

An answer to a challenge bears the nonce that came directly before it and the address of the loaded key, and a
registration bears an email address in its common form and the address of the loaded key. Both bear the
signature of that key over the very same, whatever has made the daemon log in or register the node.
-/

namespace OperatorDaemon

open Daemon (Task Turn)
open Service (Challenge Client Error Exchange Reply)

/-! ### Registrations that are asked for -/

/-- A task asks for the registration of the node under the email address that a text is. -/
inductive Daemon.Task.Registers : Task → (text : String) → Prop where
  /-- It is a registration. -/
  | register (text : String) : Registers (.register text) text
  /-- It is to answer a request for a registration. -/
  | handle (freshId : String) (r : Api.Request) (text : String) (hroute : r.LeadsTo .registerNode)
      (hbody : r.readBody Api.emailCodec = .ok text) : Registers (.handle freshId r) text

/-- Whether an event, if it is a registration, is that of the loaded key under an email address that a task asks
for. -/
def Event.IsWishOf (wallet : Wallet) (t : Task) : Event → Prop
  | .called (.nodeAddress r) _ _ => ∃ key text email, wallet.key = some key ∧ t.Registers text ∧
      Email.normalize? text = some email ∧ r = .signed key email
  | .called _ _ _ | .loginStarted _ => True

/-- Whether an event is a registration. -/
def Event.isRegistration : Event → Bool
  | .called (.nodeAddress _) _ _ => true
  | .called _ _ _ | .loginStarted _ => false

lemma Event.isWishOf_of_not_isRegistration {e : Event} (h : e.isRegistration = false) (wallet : Wallet)
    (t : Task) : e.IsWishOf wallet t := by
  cases e with
  | loginStarted ready => trivial
  | called c token x =>
    cases c with
    | nodeAddress r => cases h
    | _ => trivial

/-- The law that no registration is recorded. -/
def Law.registeringNothing : Law where
  rel _ p _ p' := GrowsBy (·.isRegistration = false) p.log p'.log
  refl _ p := .refl _ p.log
  trans := .trans

/-- Neither attempts to log in nor calls to modules register the node. -/
lemma Law.callsObey_registeringNothing : Law.registeringNothing.CallsObey where
  logIn := by
    rintro context w result w' hrule
    cases hrule with
    | unready | challengeDropped | challengeRefused | answerDropped | admitted | unregistered
    | walletMissing | answerRefused => exact ⟨_, rfl, by simp [loginEvents, Event.isRegistration]⟩
  call := by
    intro context w c x hc hx
    refine ⟨_, rfl, ?_⟩
    cases c with
    | nonce | login | nodeAddress => cases hc
    | _ => simp [Event.isRegistration]

lemma Law.ignoresWallet_registeringNothing : Law.registeringNothing.IgnoresWallet :=
  fun _ p _ => .refl _ p.log

/-- All registrations that are recorded from one world to another are asked for by a task. -/
def Daemon.Task.Wishes (t : Task) (w w' : World) : Prop :=
  GrowsBy (·.IsWishOf w.wallet t) w.log w'.log

namespace Daemon.Task.Wishes

variable {t : Task} {context : Context} {w w' : World}

lemma refl (t : Task) (w : World) : t.Wishes w w := GrowsBy.refl _ w.log

lemma of_quiet {completed : Bool}
    (h : Law.registeringNothing.rel context w.past completed w'.past) : t.Wishes w w' :=
  GrowsBy.mono h fun _ he => Event.isWishOf_of_not_isRegistration he w.wallet t

/-- Registering the node under an email address that is asked for calls for that, and at most logs in then. -/
lemma register {text : String} (ht : t.Registers text) (context : Context) (w : World) :
    t.Wishes w (Act.register text context w).2 := by
  unfold Act.register
  cases hemail : Email.normalize? text with
  | none => exact refl t w
  | some email =>
    cases hkey : w.wallet.key with
    | none =>
      simp only [Act.run_bind, Act.run_world, hkey, Act.run_pure]
      exact refl t w
    | some key =>
      simp only [Act.run_bind, Act.run_world, hkey]
      rcases hrun : Act.registerKey key email context w with ⟨result, w'⟩
      have hwish (x : Exchange (.nodeAddress (.signed key email))) :
          (Event.called _ w.session.token x).IsWishOf w.wallet t :=
        ⟨key, text, email, hkey, ht, hemail, rfl⟩
      cases RegisterRule.of_registerKey hrun with
      | dropped x hx h => exact ⟨[.called _ w.session.token x], rfl, by simpa using hwish x⟩
      | refused x e hx h => exact ⟨[.called _ w.session.token x], rfl, by simpa using hwish x⟩
      | accepted x data login w' hx h hlogin =>
        obtain ⟨events, hlog, hevents⟩ := Law.callsObey_registeringNothing.logIn hlogin
        refine ⟨.called _ w.session.token x :: events, by simpa [Past.advance] using hlog, ?_⟩
        rw [List.forall_mem_cons]
        exact ⟨hwish x, fun e he => Event.isWishOf_of_not_isRegistration (hevents e he) _ _⟩

lemma respond {freshId : String} {r : Api.Request} {route : Api.Route} (hroute : r.LeadsTo route)
    (context : Context) (w : World) : (handle freshId r).Wishes w (route.respond r context w).2 := by
  have hcalls := Law.callsObey_registeringNothing
  cases route with
  | health | liveness | walletStatus => exact refl _ w
  | registrationStatus =>
    exact of_quiet ((hcalls.obeys_registrationStatus.bind fun _ => .pure _) context w)
  | registerNode =>
    cases hbody : r.readBody Api.emailCodec with
    | error rejection =>
      simp only [Api.Route.respond, hbody, Act.run_pure]
      exact refl _ w
    | ok text =>
      simp only [Api.Route.respond, hbody]
      rw [Act.snd_bind_of_idle (by rintro (_ | _) _ <;> rfl)]
      exact register (.handle freshId r text hroute hbody) context w
  | module m => exact of_quiet (hcalls.looksObey.obeys_moduleRoute m r context w)

/-- What a task registers the node under has been asked for. -/
theorem act (t : Task) (context : Context) (w : World) : t.Wishes w (t.act context w).2 := by
  have hcalls := Law.callsObey_registeringNothing
  cases t with
  | loadHex | loadFile | setAddress | unload =>
    exact of_quiet (obeys_of_changesWallet Law.ignoresWallet_registeringNothing rfl context w)
  | writeFile | removeFile | sign | requireWallet => exact refl _ w
  | requireRegistered =>
    exact of_quiet (Act.Obeys.requireRegistered hcalls.obeys_registrationStatus context w)
  | lookUp => exact of_quiet (hcalls.obeys_registrationStatus context w)
  | logIn => exact of_quiet (hcalls.obeys_logIn context w)
  | register text => exact register (.register text) context w
  | wait moreLooks? => exact of_quiet (hcalls.looksObey.obeys_wait moreLooks? context w)
  | operate o => exact of_quiet (hcalls.obeys_run o context w)
  | handle freshId r =>
    by_cases hleads : ∃ route, r.LeadsTo route
    · obtain ⟨route, hroute⟩ := hleads
      rw [Task.act, Api.handle_of_leadsTo hroute]
      exact respond hroute context w
    · rw [Task.act, Api.handle_of_not_leadsTo (not_exists.mp hleads)]
      exact refl _ w

end Daemon.Task.Wishes

/-! ### Signed requests -/

/-- A request answers the challenge that came directly before it: it bears the nonce of the challenge, the address
of the loaded key, which is the node address, and the signature of that key over both. -/
structure Service.Request.SignsAnswer (q : Service.Request) (context : Context) (wallet : Wallet)
    (before : List Event) (key : PrivateKey) (challenge : Challenge) : Prop where
  loaded : wallet.key = some key
  isNode : wallet.nodeAddress = some key.address
  challenged : ∃ rest replies,
    before = rest ++ [.called .nonce none (context.exchange .nonce none replies)] ∧
      context.Grants .nonce none replies challenge
  body : q.body = some (.object
    [("nonce", .string challenge.nonce), ("address", .string key.address.checksummed),
      ("signature", .string (Hex.encodePrefixed
        (key.sign (Utf8.bytes (Service.loginMessage challenge.nonce key.address)))))])

/-- A request registers the node under an email address that a task asks for: it bears the common form of the
email address, the address of the loaded key, and the signature of that key over both. -/
structure Service.Request.SignsWish (q : Service.Request) (wallet : Wallet) (t : Task)
    (key : PrivateKey) (text email : String) : Prop where
  loaded : wallet.key = some key
  asked : t.Registers text
  normalized : Email.normalize? text = some email
  body : q.body = some (.object
    [("email", .string email), ("nodeAddress", .string key.address.checksummed),
      ("signature", .string (Hex.encodePrefixed
        (key.sign (Utf8.bytes (Service.nodeAddressMessage email key.address)))))])

/-- Whether the request of an event, if it is an answer to a challenge or a registration, is signed as it should
be. -/
def Event.IsSigned (context : Context) (wallet : Wallet) (t : Task) (before : List Event) :
    Event → Prop
  | .called (.login _) _ x => ∀ q, x.request = some q →
      ∃ key challenge, q.SignsAnswer context wallet before key challenge
  | .called (.nodeAddress _) _ x => ∀ q, x.request = some q →
      ∃ key text email, q.SignsWish wallet t key text email
  | .called _ _ _ | .loginStarted _ => True

namespace Event

variable {context : Context} {wallet : Wallet} {t : Task} {before : List Event} {e : Event}

lemma IsSigned.prepend (h : e.IsSigned context wallet t before) (front : List Event) :
    e.IsSigned context wallet t (front ++ before) := by
  cases e with
  | loginStarted ready => trivial
  | called c token x =>
    cases c with
    | login r =>
      intro q hq
      obtain ⟨key, challenge, hloaded, hnode, ⟨rest, replies, rfl, hgrants⟩, hbody⟩ := h q hq
      refine ⟨key, challenge, hloaded, hnode, ⟨front ++ rest, replies, ?_, hgrants⟩, hbody⟩
      rw [List.append_assoc]
    | nodeAddress r => exact h
    | _ => trivial

/-- An event is signed if it is an exchange, stands behind what it follows, and is the answer or the wish of the
loaded key. -/
lemma isSigned (hexchange : e.IsExchange context) (hbefore : ∀ e' ∈ before, e'.IsExchange context)
    (hfits : e.Fits before) (hanswer : e.IsAnswerOf wallet) (hwish : e.IsWishOf wallet t) :
    e.IsSigned context wallet t before := by
  cases e with
  | loginStarted ready => trivial
  | called c token x =>
    obtain ⟨replies, rfl⟩ := hexchange
    cases c with
    | login r =>
      intro q hq
      obtain ⟨rest, n, challenge, key', rfl, hn, rfl, rfl⟩ := hfits
      obtain ⟨key, challenge', hkey, hr⟩ := hanswer
      obtain ⟨replies', rfl⟩ : (called .nonce none n).IsExchange context := hbefore _ (by simp)
      obtain ⟨hloaded, hnode⟩ := Wallet.key_of_readyKey? hkey
      refine ⟨key, challenge, hloaded, hnode,
        ⟨rest ++ [.loginStarted true], replies', by simp, Context.outcome_eq_ok.mp hn⟩, ?_⟩
      -- There is one answer only, so the nonces are the same, and the loaded key has answered.
      have hnonce : challenge.nonce = challenge'.nonce := congrArg Service.LoginRequest.nonce hr
      have hsame : Service.LoginRequest.answering key' challenge = .answering key challenge := by
        rw [hr, Service.LoginRequest.answering, Service.LoginRequest.answering, hnonce]
      rw [Context.body_of_exchange hq, hsame]
      rfl
    | nodeAddress r =>
      intro q hq
      obtain ⟨key, text, email, hkey, htext, hemail, rfl⟩ := hwish
      exact ⟨key, text, email, hkey, htext, hemail, Context.body_of_exchange hq⟩
    | _ => trivial

end Event

/-! ### Turns -/

/-- A turn in which anything is recorded leaves the wallet as it is, and what is called for is signed. -/
lemma Daemon.Turn.isSigned_take (client : Client) (t : Turn) (w : World) :
    ∃ events, (t.take client w).2.log = w.log ++ events ∧
      (events = [] ∨ (t.take client w).2.wallet = w.wallet) ∧
      EachAfter (Event.IsSigned ⟨client, t.connection, t.now⟩ w.wallet t.task) events := by
  obtain ⟨events, hlog, hanswers, hwallet⟩ := t.isAnswerOf_take client w
  obtain ⟨es, hlog₁, hexchanges⟩ := Law.holds_exchanging.rel_take client t w
  obtain ⟨es', hlog₂, hfits⟩ := Law.holds_ordering.rel_take client t w
  obtain ⟨es'', hlog₃, hwishes⟩ :=
    Task.Wishes.act t.task ⟨client, t.connection, t.now⟩ { w with replies := t.replies }
  -- All four tell what the log has grown by, so they speak of the same events.
  obtain rfl : es = events := List.append_cancel_left (hlog₁.symm.trans hlog)
  obtain rfl : es' = es := List.append_cancel_left (hlog₂.symm.trans hlog)
  obtain rfl : es'' = es' := List.append_cancel_left (hlog₃.symm.trans hlog)
  refine ⟨es'', hlog, hwallet.imp_left And.right, fun before e after hsplit => ?_⟩
  have hmem : e ∈ es'' := by simp [hsplit]
  refine Event.isSigned (hexchanges e hmem) (fun e' he' => hexchanges e' ?_)
    (hfits before e after hsplit) (hanswers e hmem) (hwishes e hmem)
  rw [hsplit]
  exact List.mem_append_left _ he'

/-! ### Runs -/

/-- The turn of a run in which an event is recorded: what had been recorded by then goes beyond the turns before
that one, and the event has been recorded when that turn is over. -/
structure Moment (client : Client) (turns : List Turn) (start : World) (before : List Event)
    (event : Event) where
  earlier : List Turn
  turn : Turn
  later : List Turn
  turns_eq : turns = earlier ++ turn :: later
  not_earlier : (Turn.takeAll client earlier start).log <+: before
  not_later : before ++ [event] <+: (Turn.takeAll client (earlier ++ [turn]) start).log

namespace Moment

variable {client : Client} {turns : List Turn} {start : World} {before : List Event} {event : Event}

/-- The wallet that the turn begins with. -/
def wallet (m : Moment client turns start before event) : Wallet :=
  (Turn.takeAll client m.earlier start).wallet

/-- What the turn finds given. -/
def context (m : Moment client turns start before event) : Context :=
  ⟨client, m.turn.connection, m.turn.now⟩

/-- The wallet stays the same during the turn, and the event is signed with its key. -/
structure IsSigned (m : Moment client turns start before event) : Prop where
  kept : (Turn.takeAll client (m.earlier ++ [m.turn]) start).wallet = m.wallet
  signed : event.IsSigned m.context m.wallet m.turn.task before

/-- The moment of an event in a run that goes on. -/
def extend (m : Moment client turns start before event) (t : Turn) :
    Moment client (turns ++ [t]) start before event where
  earlier := m.earlier
  turn := m.turn
  later := m.later ++ [t]
  turns_eq := by rw [← List.cons_append, ← List.append_assoc, ← m.turns_eq]
  not_earlier := m.not_earlier
  not_later := m.not_later

lemma IsSigned.extend {m : Moment client turns start before event} (h : m.IsSigned) (t : Turn) :
    (m.extend t).IsSigned := ⟨h.kept, h.signed⟩

end Moment

/-- Whatever is recorded in a run, be it by a login, a look at the registration status, a call that is made again,
a registration or a request to the daemon: an answer to a challenge bears the nonce that came directly before it,
the address of the loaded key, which is the node address, and the signature of that key over both; a registration
bears the common form of the email address that the daemon is asked to register the node under, the address of the
loaded key, and the signature of that key over both. -/
theorem isSigned_takeAll {client : Client} {turns : List Turn} {start : World}
    {before after : List Event} {event : Event} (hstart : start.log <+: before)
    (h : (Turn.takeAll client turns start).log = before ++ event :: after) :
    ∃ m : Moment client turns start before event, m.IsSigned := by
  induction turns using List.reverseRecOn generalizing after with
  | nil =>
    have hlength : start.log.length = before.length + (after.length + 1) := by
      simpa [Turn.takeAll] using congrArg List.length h
    have hle := hstart.length_le
    omega
  | append_singleton turns t ih =>
    obtain ⟨events, hlog, hwallet, hsigned⟩ := t.isSigned_take client (Turn.takeAll client turns start)
    rw [← Turn.takeAll_concat] at hlog hwallet
    rw [hlog] at h
    rcases Event.split_append h with ⟨rest, hold⟩ | ⟨between, rfl, rfl⟩
    · obtain ⟨m, hm⟩ := ih hold
      exact ⟨m.extend t, hm.extend t⟩
    · refine ⟨⟨turns, t, [], rfl, List.prefix_append _ _, ?_⟩, hwallet.resolve_left (by simp), ?_⟩
      · rw [hlog, List.append_assoc]
        exact (List.prefix_append_right_inj _).mpr ⟨after, by simp⟩
      · exact (hsigned between event after rfl).prepend _

/-- A registration that is accepted, and the login that follows it. -/
def Daemon.Turn.accepted : Turn :=
  { task := .register "a@b", connection := .sample, replies := .granting "\x7b\x7d" :: Reply.login
    now := "noon" }

/-- The registration is sent, and so is the login, and both are signed. -/
theorem isSigned_takeAll_accepted :
    let start : World := { wallet := Wallet.empty.load .sample }
    let log := (Turn.takeAll .sample [.accepted] start).log
    (∃ before e after, log = before ++ e :: after ∧ (e.isRegistration ∧ e.request?.isSome) ∧
      ∃ m : Moment .sample [.accepted] start before e, m.IsSigned) ∧
    ∃ before e after, log = before ++ e :: after ∧ (e.isLoginCall ∧ e.request?.isSome) ∧
      ∃ m : Moment .sample [.accepted] start before e, m.IsSigned := by
  intro start log
  have hsigned (kind : Event → Bool) (hsent : log.any fun e => kind e && e.request?.isSome) :
      ∃ before e after, log = before ++ e :: after ∧ (kind e ∧ e.request?.isSome) ∧
        ∃ m : Moment .sample [.accepted] start before e, m.IsSigned := by
    obtain ⟨e, hmem, he⟩ := List.any_eq_true.mp hsent
    obtain ⟨before, after, hlog⟩ := List.append_of_mem hmem
    exact ⟨before, e, after, hlog, Bool.and_eq_true_iff.mp he, isSigned_takeAll List.nil_prefix hlog⟩
  constructor
  · exact hsigned Event.isRegistration (by decide +kernel)
  · exact hsigned Event.isLoginCall (by decide +kernel)

end OperatorDaemon
