import OperatorDaemon.Proofs.Api.Gate

/-!
# What a request to the daemon may set off

The service is called on behalf of few requests only: a look at a registration status that is not known, the
registration of a loaded key, and an operation that the wallet is ready for. Any other request leaves the
world as it is, but for a look that finds the wallet not to be fit for logging in.
-/

namespace OperatorDaemon.Api

open OperatorDaemon.Module (Operation)

/-! ### Where requests lead -/

/-- A request is one to a route, with a method that the route answers. -/
def Request.LeadsTo (r : Request) (route : Route) : Prop :=
  Route.ofPath? r.path = some route ∧ r.method ∈ route.allowed

lemma dispatch_of_not_leadsTo {r : Request} (h : ∀ route, ¬ r.LeadsTo route) (context : Context)
    (w : World) : (dispatch r context w).2 = w := by
  cases hroute : Route.ofPath? r.path with
  | none => simp [dispatch, hroute]
  | some route =>
    have hmethod : r.method ∉ route.allowed := fun hmethod => h route ⟨hroute, hmethod⟩
    have hother : r.method ≠ route.method := by
      rintro hsame
      rw [hsame, Route.method, Route.allowed] at hmethod
      split at hmethod <;> simp at hmethod
    simp [dispatch, hroute, hother, hmethod]

/-- A request that leads nowhere has no effect. -/
lemma handle_of_not_leadsTo {r : Request} (h : ∀ route, ¬ r.LeadsTo route) (freshId : String)
    (context : Context) (w : World) : (handle freshId r context w).2 = w := by
  unfold handle
  split_ifs
  · rfl
  · rw [Act.snd_bind_of_idle fun _ _ => rfl]
    exact dispatch_of_not_leadsTo h context w

/-- A request has the effect of the route that it leads to. -/
lemma handle_of_leadsTo {r : Request} {route : Route} (h : r.LeadsTo route) (freshId : String)
    (context : Context) (w : World) :
    (handle freshId r context w).2 = (route.respond r context w).2 := by
  rw [handle_eq h.1 h.2, Act.run_map]

/-! ### Requests with an effect -/

/-- The requests on whose behalf the service may be called. -/
inductive Request.MayCall (r : Request) (w : World) : Prop where
  /-- It asks for a registration status that is not known, and the wallet is ready for a login. -/
  | lookUp (hroute : r.LeadsTo .registrationStatus) (hstatus : w.session.status.isKnown = false)
      (hready : w.wallet.isReady)
  /-- It asks for the registration of the loaded key under an email address. -/
  | register (text email : String) (key : PrivateKey) (hroute : r.LeadsTo .registerNode)
      (hbody : r.readBody emailCodec = .ok text) (hemail : Email.normalize? text = some email)
      (hkey : w.wallet.key = some key)
  /-- It asks for an operation of a module, and the wallet is ready for it. -/
  | operate (m : ModuleRoute) (input : ModuleInput) (asked : Except String Operation) (o : Operation)
      (hroute : r.LeadsTo (.module m)) (hinput : m.readInput r = .ok input)
      (hasked : Asked r m input.deployment asked) (hready : IsReady input.deployment asked w o)

/-- A request asks for a registration status that is not known, and the wallet is not ready for a login. -/
structure Request.FindsNoWallet (r : Request) (w : World) : Prop where
  route : r.LeadsTo .registrationStatus
  status : w.session.status.isKnown = false
  wallet : w.wallet.isReady = false

variable {r : Request} {w : World}

/-! ### Routes -/

/-- The gate leaves the world as it is unless the wallet is ready for the operation that is asked for. -/
lemma GateRule.isReady_or_eq {deployment : String} {asked : Except String Operation}
    {context : Context} {w' : World} {answer? : Option Response}
    (h : GateRule deployment asked context w answer? w') :
    (∃ o, IsReady deployment asked w o) ∨ w' = w := by
  cases h with
  | deploymentMissing | saltMalformed | walletUnready => exact .inr rfl
  | lookUpDropped o w' hready | unregistered o error? w' hready
  | walletMissing o message error? w' hready | unknown o e w' hready
  | operationDropped o error? w₁ w' hready | answered o error? a w₁ w' hready
  | failed o error? e p w₁ w' hready => exact .inl ⟨o, hready⟩

lemma register_of_quiet {text : String}
    (h : ∀ email key, Email.normalize? text = some email → w.wallet.key ≠ some key)
    (context : Context) : (Act.register text context w).2 = w := by
  unfold Act.register
  match hemail : Email.normalize? text with
  | none => rfl
  | some email =>
    match hkey : w.wallet.key with
    | none => simp only [Act.run_bind, Act.run_world, hkey, Act.run_pure]
    | some key => exact absurd hkey (h email key hemail)

lemma respond_registerNode_of_quiet (hroute : r.LeadsTo .registerNode) (h : ¬ r.MayCall w)
    (context : Context) : (Route.registerNode.respond r context w).2 = w := by
  match hbody : r.readBody emailCodec with
  | .error rejection => simp only [Route.respond, hbody, Act.run_pure]
  | .ok text =>
    simp only [Route.respond, hbody]
    rw [Act.snd_bind_of_idle (by rintro (_ | _) _ <;> rfl)]
    refine register_of_quiet (fun email key hemail hkey => ?_) context
    exact h (.register text email key hroute hbody hemail hkey)

lemma respond_module_of_quiet {m : ModuleRoute} (hroute : r.LeadsTo (.module m))
    (h : ¬ r.MayCall w) (context : Context) : (m.respond r context w).2 = w := by
  cases hinput : m.readInput r with
  | error rejection => simp [ModuleRoute.respond, hinput]
  | ok input =>
    obtain ⟨asked, hasked, hrule⟩ := GateRule.of_respond hinput context w
    obtain ⟨o, hready⟩ | hsame := hrule.isReady_or_eq
    · exact absurd (.operate m input asked o hroute hinput hasked hready) h
    · exact hsame

/-! ### Requests without an effect -/

/-- A request that the service is not called for leaves the world as it is. -/
lemma handle_of_quiet (h : ¬ r.MayCall w) (hwallet : ¬ r.FindsNoWallet w) (freshId : String)
    (context : Context) : (handle freshId r context w).2 = w := by
  by_cases hleads : ∃ route, r.LeadsTo route
  · obtain ⟨route, hroute⟩ := hleads
    rw [handle_of_leadsTo hroute]
    cases route with
    | health | liveness | walletStatus => rfl
    | registrationStatus =>
      have hknown : w.session.status.isKnown := by
        by_contra hunknown
        rw [Bool.not_eq_true] at hunknown
        cases hready : w.wallet.isReady with
        | true => exact h (.lookUp hroute hunknown hready)
        | false => exact hwallet ⟨hroute, hunknown, hready⟩
      rw [Route.respond, Act.snd_bind_of_idle fun _ _ => rfl,
        Act.registrationStatus_of_isKnown hknown]
    | registerNode => exact respond_registerNode_of_quiet hroute h context
    | module m => exact respond_module_of_quiet hroute h context
  · exact handle_of_not_leadsTo (not_exists.mp hleads) freshId context w

/-- A look at the registration status that finds the wallet not to be ready notes that, and no more. -/
lemma handle_of_findsNoWallet (h : r.FindsNoWallet w) (freshId : String) (context : Context) :
    (handle freshId r context w).2 =
      w.advance [.loginStarted false] w.replies (w.session.withStatus .noWallet) := by
  rw [handle_of_leadsTo h.route, Route.respond, Act.snd_bind_of_idle fun _ _ => rfl,
    Act.registrationStatus_of_unready h.status h.wallet]

/-- Something is sent to the service only on behalf of a request that it may be called for. Every other
request leaves the wallet, the files and the session as they are, but that a look at a registration status
that is not known notes that the wallet is not ready. -/
theorem effect_handle (freshId : String) (r : Request) (context : Context) (w : World) :
    let w' := (handle freshId r context w).2
    (w'.requests ≠ w.requests → r.MayCall w) ∧
      (¬ r.MayCall w → w'.wallet = w.wallet ∧ w'.disk = w.disk ∧
        (r.FindsNoWallet w → w'.session = w.session.withStatus .noWallet) ∧
        (¬ r.FindsNoWallet w → w'.session = w.session)) := by
  by_cases hwallet : r.FindsNoWallet w
  · rw [handle_of_findsNoWallet hwallet]
    simp [hwallet, World.requests, Event.request?]
  · refine ⟨fun hsent => ?_, fun hquiet => ?_⟩
    · by_contra hquiet
      exact hsent (by rw [handle_of_quiet hquiet hwallet])
    · simp [handle_of_quiet hquiet hwallet, hwallet]

end OperatorDaemon.Api
