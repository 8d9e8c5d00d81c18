import OperatorDaemon.Proofs.Session.Rules

/-!
# Laws of operations

Whatever the daemon does, it does by logging in, by calls to the modules, by registrations and by changes of
the wallet. A law that these obey is obeyed by every task, broken off or not, and by every turn. What the
daemon does by itself or for those who ask it to consists of less: of looks at the registration status, of
registrations, and of operations behind the gate.
-/

namespace OperatorDaemon

open OperatorDaemon.Module (Operation)
open Service (Call Client Error Exchange)

/-! ### Laws -/

/-- The part of a world that laws speak about. -/
structure Past where
  /-- The wallet. -/
  wallet : Wallet
  /-- The session. -/
  session : Session
  /-- What has been done so far. -/
  log : List Event

/-- The past of a world. -/
def World.past (w : World) : Past := ⟨w.wallet, w.session, w.log⟩

/-- The past after further events. -/
def Past.advance (p : Past) (events : List Event) (session : Session) : Past :=
  { p with session, log := p.log ++ events }

@[simp] lemma World.past_wallet (w : World) : w.past.wallet = w.wallet := rfl

@[simp] lemma World.past_session (w : World) : w.past.session = w.session := rfl

@[simp] lemma World.past_log (w : World) : w.past.log = w.log := rfl

@[simp] lemma World.past_advance (w : World) (events : List Event) (replies : List Service.Reply)
    (session : Session) : (w.advance events replies session).past = w.past.advance events session :=
  rfl

/-- A log has grown by events of some kind only. -/
def GrowsBy (Q : Event → Prop) (log log' : List Event) : Prop :=
  ∃ events, log' = log ++ events ∧ ∀ e ∈ events, Q e

namespace GrowsBy

variable {Q Q' : Event → Prop} {log log₁ log₂ : List Event}

lemma refl (Q : Event → Prop) (log : List Event) : GrowsBy Q log log := ⟨[], by simp⟩

lemma trans (h : GrowsBy Q log log₁) (h' : GrowsBy Q log₁ log₂) : GrowsBy Q log log₂ := by
  obtain ⟨es, hlog, hes⟩ := h
  obtain ⟨es', hlog', hes'⟩ := h'
  refine ⟨es ++ es', by rw [hlog', hlog, List.append_assoc], fun e he => ?_⟩
  exact (List.mem_append.mp he).elim (hes e) (hes' e)

lemma mono (h : GrowsBy Q log log₁) (hQ : ∀ e, Q e → Q' e) : GrowsBy Q' log log₁ := by
  obtain ⟨es, hlog, hes⟩ := h
  exact ⟨es, hlog, fun e he => hQ e (hes e he)⟩

end GrowsBy

/-- A relation between the past before an operation and the past after it, which may depend on whether the
operation has been completed. -/
structure Law where
  /-- The relation. -/
  rel : Context → Past → (completed : Bool) → Past → Prop
  /-- Nothing may happen. -/
  refl : ∀ context p, rel context p true p
  /-- Things may happen one after the other. -/
  trans : ∀ {context p₁ p₂ p₃ completed}, rel context p₁ true p₂ → rel context p₂ completed p₃ →
    rel context p₁ completed p₃

@[simp] lemma Module.Operation.isModule_call (o : Operation) : o.call.1.isModule := by
  cases o <;> rfl

/-- An operation obeys a law wherever it is carried out. -/
def Act.Obeys {α : Type} (x : Act α) (law : Law) : Prop :=
  ∀ context w, law.rel context w.past (x context w).1.isSome (x context w).2.past

/-- Attempts to log in and calls to modules obey a law. -/
structure Law.CallsObey (law : Law) : Prop where
  /-- An attempt to log in. -/
  logIn : ∀ {context w result w'}, LogInRule context w result w' →
    law.rel context w.past result.isSome w'.past
  /-- A call to a module. -/
  call : ∀ {context} {w : World} (c : Call) (x : Exchange c), c.isModule →
    x = context.exchange c w.session.token w.replies →
    law.rel context w.past x.outcome.isSome
      (w.past.advance [.called c w.session.token x] w.session)

/-- The steps that operations consist of obey a law. -/
structure Law.StepsObey (law : Law) : Prop extends law.CallsObey where
  /-- A registration that is accepted or dropped. -/
  registered : ∀ {context} {w : World} {r} (x : Exchange (.nodeAddress r)),
    x = context.exchange _ w.session.token w.replies → (∀ e, x.outcome ≠ some (.error e)) →
    law.rel context w.past x.outcome.isSome
      (w.past.advance [.called _ w.session.token x] w.session)
  /-- A registration that fails. -/
  refused : ∀ {context} {w : World} {r} (x : Exchange (.nodeAddress r)) (e : Error),
    x = context.exchange _ w.session.token w.replies → x.outcome = some (.error e) →
    law.rel context w.past true
      (w.past.advance [.called _ w.session.token x] w.session.withDoubt)

/-- A law has nothing to say about changes of the wallet. -/
def Law.IgnoresWallet (law : Law) : Prop :=
  ∀ context p wallet, law.rel context p true { p with wallet }

/-- The steps that operations consist of obey a law, and so does a change of the wallet. -/
structure Law.Holds (law : Law) : Prop extends law.StepsObey where
  /-- A change of the wallet. -/
  wallet : law.IgnoresWallet

/-- What the daemon does without registering the node obeys a law, be it by itself or for those who ask it
to. -/
structure Law.LooksObey (law : Law) : Prop where
  /-- A look at the registration status. -/
  lookUp : Act.registrationStatus.Obeys law
  /-- An operation behind the gate. -/
  runGated : ∀ o, (Api.runGated o).Obeys law

/-- What the daemon does by itself or for those who ask it to obeys a law. -/
structure Law.OwnObeys (law : Law) : Prop extends law.LooksObey where
  /-- A registration. -/
  registerKey : ∀ key email, (Act.registerKey key email).Obeys law

/-! ### Composition -/

namespace Act.Obeys

variable {α β : Type} {law : Law}

lemma pure (a : α) : (Pure.pure a : Act α).Obeys law := fun context w => law.refl context w.past

lemma world : Act.world.Obeys law := fun context w => law.refl context w.past

lemma putDisk (disk : Disk) : (Daemon.Task.putDisk disk).Obeys law :=
  fun context w => law.refl context w.past

lemma bind {x : Act α} {f : α → Act β} (hx : x.Obeys law) (hf : ∀ a, (f a).Obeys law) :
    (x >>= f).Obeys law := by
  intro context w
  have h := hx context w
  rw [Act.run_bind]
  match hrun : x context w with
  | (none, w') =>
    rw [hrun] at h
    exact h
  | (some a, w') =>
    rw [hrun] at h
    exact law.trans h (hf a context w')

lemma requireWallet : Act.requireWallet.Obeys law := .bind .world fun _ => .pure _

lemma requireRegistered (h : Act.registrationStatus.Obeys law) : Act.requireRegistered.Obeys law := by
  refine .bind h fun (status, error?) => ?_
  cases status <;> exact .pure _

end Act.Obeys

/-! ### Operations -/

namespace Law.CallsObey

variable {law : Law}

lemma obeys_logIn (h : law.CallsObey) : Act.logIn.Obeys law :=
  fun _ _ => h.logIn (.of_logIn rfl)

lemma obeys_call (h : law.CallsObey) {c : Call} (hc : c.isModule) : (Act.call c).Obeys law := by
  intro context w
  rw [Act.run_call, Call.tokenIn_of_usesSession (Call.usesSession_of_isModule hc)]
  exact h.call c _ hc rfl

lemma obeys_request (h : law.CallsObey) {c : Call} (hc : c.isModule) : (Act.request c).Obeys law := by
  refine .bind (h.obeys_call hc) fun reply => ?_
  match reply with
  | .ok data => exact .pure _
  | .error e =>
    dsimp only
    split
    · refine .bind h.obeys_logIn fun login => ?_
      match login with
      | .ok () => exact h.obeys_call hc
      | .error e' => exact .pure _
    · exact .pure _

lemma obeys_registrationStatus (h : law.CallsObey) : Act.registrationStatus.Obeys law := by
  refine .bind .world fun w => ?_
  dsimp only
  split
  · exact .pure _
  · refine .bind h.obeys_logIn fun login => ?_
    cases login with
    | ok _ => exact .bind .world fun _ => .pure _
    | error _ => exact .bind .world fun _ => .pure _

lemma obeys_run (h : law.CallsObey) (o : Operation) : o.run.Obeys law := by
  unfold Operation.run
  split
  · exact .pure _
  · refine .bind (h.obeys_request o.isModule_call) fun reply => ?_
    match reply with
    | .error e => exact .pure _
    | .ok data =>
      dsimp only
      split <;> exact .pure _

lemma obeys_runGated (h : law.CallsObey) (o : Operation) : (Api.runGated o).Obeys law := by
  refine .bind .requireWallet fun wallet => ?_
  match wallet with
  | .error _ => exact .pure _
  | .ok () =>
    refine .bind (.requireRegistered h.obeys_registrationStatus) fun registered => ?_
    match registered with
    | .error requirement => cases requirement <;> exact .pure _
    | .ok () =>
      refine .bind (h.obeys_run o) fun answer => ?_
      cases answer <;> exact .pure _

lemma looksObey (h : law.CallsObey) : law.LooksObey where
  lookUp := h.obeys_registrationStatus
  runGated := h.obeys_runGated

end Law.CallsObey

namespace Law.StepsObey

variable {law : Law}

lemma obeys_registerKey (h : law.StepsObey) (key : PrivateKey) (email : String) :
    (Act.registerKey key email).Obeys law := by
  intro context w
  rcases hrun : Act.registerKey key email context w with ⟨result, w'⟩
  cases RegisterRule.of_registerKey hrun with
  | dropped x hx hreply =>
    have hcall := h.registered x hx (by simp [hreply])
    rwa [hreply] at hcall
  | refused x e hx hreply => exact h.refused x e hx hreply
  | accepted x data login w' hx hreply hlogin =>
    have hcall := h.registered x hx (by simp [hreply])
    rw [hreply] at hcall
    rw [Option.isSome_map]
    exact law.trans hcall (h.logIn hlogin)

lemma ownObeys (h : law.StepsObey) : law.OwnObeys where
  toLooksObey := h.looksObey
  registerKey := h.obeys_registerKey

end Law.StepsObey

/-! ### Waiting, registering, and requests to the daemon -/

namespace Law.LooksObey

variable {law : Law}

lemma obeys_poll (h : law.LooksObey) (times : Nat) : (Act.poll times).Obeys law := by
  induction times with
  | zero => exact .pure _
  | succ times ih =>
    refine .bind h.lookUp fun (status, error?) => ?_
    dsimp only
    split
    · exact .pure _
    · exact ih

lemma obeys_wait (h : law.LooksObey) (moreLooks? : Option Nat) : (Act.wait moreLooks?).Obeys law := by
  refine .bind .world fun w => .bind (h.obeys_poll _) fun unregistered => ?_
  cases unregistered <;> exact .pure _

lemma obeys_moduleRoute (h : law.LooksObey) (m : Api.ModuleRoute) (r : Api.Request) :
    (m.respond r).Obeys law := by
  unfold Api.ModuleRoute.respond
  split
  · exact .pure _
  · split
    · exact .pure _
    · exact h.runGated _

end Law.LooksObey

namespace Law.OwnObeys

variable {law : Law}

lemma obeys_register (h : law.OwnObeys) (text : String) : (Act.register text).Obeys law := by
  unfold Act.register
  split
  · exact .pure _
  · refine .bind .world fun w => ?_
    split
    · exact .pure _
    · exact h.registerKey _ _

lemma obeys_respond (h : law.OwnObeys) (route : Api.Route) (r : Api.Request) :
    (route.respond r).Obeys law := by
  cases route with
  | health => exact .bind .world fun _ => .pure _
  | liveness => exact .pure _
  | walletStatus => exact .bind .world fun _ => .pure _
  | registrationStatus => exact .bind h.lookUp fun _ => .pure _
  | registerNode =>
    rw [Api.Route.respond]
    split
    · exact .pure _
    · refine .bind (h.obeys_register _) fun registration => ?_
      cases registration <;> exact .pure _
  | module m => exact h.obeys_moduleRoute m r

lemma obeys_dispatch (h : law.OwnObeys) (r : Api.Request) : (Api.dispatch r).Obeys law := by
  unfold Api.dispatch
  split
  · exact .pure _
  · split
    · exact h.obeys_respond _ r
    · split
      · exact .bind (h.obeys_respond _ r) fun _ => .pure _
      · exact .pure _

lemma obeys_handle (h : law.OwnObeys) (freshId : String) (r : Api.Request) :
    (Api.handle freshId r).Obeys law := by
  unfold Api.handle
  split
  · exact .pure _
  · exact .bind (h.obeys_dispatch r) fun _ => .pure _

end Law.OwnObeys

lemma Law.StepsObey.obeys_moduleRoute {law : Law} (h : law.StepsObey) (m : Api.ModuleRoute)
    (r : Api.Request) : (m.respond r).Obeys law := h.ownObeys.obeys_moduleRoute m r

/-! ### Tasks and turns -/

namespace Daemon.Task

/-- Whether a task is one that changes the wallet. -/
def changesWallet : Task → Bool
  | loadHex _ | loadFile _ | setAddress _ | unload => true
  | writeFile .. | removeFile _ | sign _ | requireWallet | requireRegistered | lookUp | logIn
  | register _ | wait _ | operate _ | handle .. => false

/-- Whether a task is one that the daemon takes on by itself or for those who ask it to: not to log in
outright, and not to carry out an operation past the gate. A single look of the watcher is to look up the
registration status. -/
def isOwn : Task → Bool
  | logIn | operate _ => false
  | loadHex _ | loadFile _ | writeFile .. | removeFile _ | setAddress _ | unload | sign _
  | requireWallet | requireRegistered | lookUp | register _ | wait _ | handle .. => true

variable {law : Law} {t : Task}

lemma obeys_putWallet (h : law.IgnoresWallet) (wallet : Wallet) : (putWallet wallet).Obeys law :=
  fun context w => h context w.past wallet

lemma obeys_of_changesWallet (h : law.IgnoresWallet) (ht : t.changesWallet) : t.act.Obeys law := by
  cases t with
  | loadHex text =>
    rw [act]
    split
    · exact .pure _
    · exact .bind .world fun _ => .bind (obeys_putWallet h _) fun _ => .pure _
  | loadFile path =>
    refine .bind .world fun w => ?_
    split
    · exact .pure _
    · exact .bind (obeys_putWallet h _) fun _ => .pure _
  | setAddress address => exact .bind .world fun _ => obeys_putWallet h _
  | unload => exact .bind .world fun _ => obeys_putWallet h _
  | writeFile | removeFile | sign | requireWallet | requireRegistered | lookUp | logIn | register
  | wait | operate | handle => cases ht

end Daemon.Task

section

variable {law : Law} {t : Daemon.Task}

/-- Every task that is the daemon's own obeys a law that what it consists of obeys. -/
theorem Law.OwnObeys.obeys_task (h : law.OwnObeys) (hwallet : t.changesWallet → law.IgnoresWallet)
    (ht : t.isOwn) : t.act.Obeys law := by
  cases t with
  | loadHex | loadFile | setAddress | unload =>
    exact Daemon.Task.obeys_of_changesWallet (hwallet rfl) rfl
  | writeFile path contents => exact .bind .world fun _ => .putDisk _
  | removeFile path => exact .bind .world fun _ => .putDisk _
  | sign message => exact .bind .world fun _ => .pure _
  | requireWallet => exact .requireWallet
  | requireRegistered => exact .requireRegistered h.lookUp
  | lookUp => exact h.lookUp
  | register email => exact h.obeys_register email
  | wait moreLooks? => exact h.obeys_wait moreLooks?
  | handle freshId r => exact h.obeys_handle freshId r
  | logIn | operate => cases ht

/-- Every task obeys a law that the steps obey. -/
theorem Law.StepsObey.obeys_task (h : law.StepsObey)
    (hwallet : t.changesWallet → law.IgnoresWallet) : t.act.Obeys law := by
  cases ht : t.isOwn with
  | true => exact h.ownObeys.obeys_task hwallet ht
  | false =>
    cases t with
    | logIn => exact h.obeys_logIn
    | operate o => exact h.obeys_run o
    | _ => cases ht

end

lemma Daemon.Turn.take_eq (client : Client) (t : Daemon.Turn) (w : World) :
    t.take client w =
      ((t.task.act ⟨client, t.connection, t.now⟩ { w with replies := t.replies }).1,
        { (t.task.act ⟨client, t.connection, t.now⟩ { w with replies := t.replies }).2 with
          replies := [] }) := rfl

/-- Every turn obeys the law. -/
theorem Law.Holds.rel_take {law : Law} (h : law.Holds) (client : Client) (t : Daemon.Turn) (w : World) :
    law.rel ⟨client, t.connection, t.now⟩ w.past (t.take client w).1.isSome
      (t.take client w).2.past :=
  h.toStepsObey.obeys_task (fun _ => h.wallet) ⟨client, t.connection, t.now⟩
    { w with replies := t.replies }

/-! ### Completion -/

/-- The law that an operation is completed unless the service may leave it hanging. -/
def Law.completing : Law where
  rel context _ completed _ := context.connection.dropsSilent = false → completed
  refl _ _ _ := rfl
  trans _ h := h

/-- A call is completed unless it may be left hanging, and so is all that consists of calls. -/
theorem Law.holds_completing : Law.completing.Holds where
  logIn := by
    rintro context w result w' hrule hsteady
    cases hrule with
    | challengeDropped key n hkey hn h =>
      have hsome := Context.isSome_outcome hsteady .nonce none w.replies
      simp [← hn, h] at hsome
    | answerDropped key challenge n l h hl =>
      have hsome := Context.isSome_outcome hsteady (.login (.answering key challenge))
        (some challenge.token) n.rest
      simp [← h.answered, hl] at hsome
    | unready | challengeRefused | admitted | unregistered | walletMissing | answerRefused => rfl
  call := by
    rintro context w c x hc rfl hsteady
    exact Context.isSome_outcome hsteady _ _ _
  registered := by
    rintro context w r x rfl h hsteady
    exact Context.isSome_outcome hsteady _ _ _
  refused := by
    intro context w r x e hx h hsteady
    rfl
  wallet := fun _ _ _ _ => rfl

/-! ### Invariants -/

/-- The law that something is kept. -/
def Law.keeping (inv : Client → Past → Prop) : Law where
  rel context p _ p' := inv context.client p → inv context.client p'
  refl _ _ h := h
  trans h h' hp := h' (h hp)

/-- What the steps keep, a run keeps. -/
theorem Law.Holds.keeps_takeAll {inv : Client → Past → Prop} (h : (Law.keeping inv).Holds)
    {client : Client} {w : World} (hw : inv client w.past) (turns : List Daemon.Turn) :
    inv client (Daemon.Turn.takeAll client turns w).past := by
  induction turns generalizing w with
  | nil => exact hw
  | cons t turns ih => exact ih (h.rel_take client t w hw)

end OperatorDaemon
