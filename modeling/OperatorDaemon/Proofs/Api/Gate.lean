import OperatorDaemon.Proofs.Module.Members
import OperatorDaemon.Proofs.Result
import OperatorDaemon.Proofs.Text.Blank

/-!
# The gate in front of the modules

What decides the answer to a request to a module: the deployment, the salt, the wallet, the registration status
and at last the operation. `GateRule` lists the ways in which the answer can come about, each with what has
come before it, and `GateRule.of_respond` says that there are no others. All routes to modules go by them.
-/

namespace OperatorDaemon.Api

open Json (Codec)
open OperatorDaemon.Module (Answer Operation)
open Service (Error)

/-! ### Input -/

/-- What a request that can be read asks for: an operation on the trimmed deployment, unless its salt is
none. -/
inductive Asked (r : Request) : ModuleRoute → (deployment : String) → Except String Operation → Prop where
  | vaults {deployment : String}
      (h : r.readQuery (Codec.record "DeploymentQuery" deploymentShape) = .ok (deployment, ())) :
      Asked r .vaults deployment (.ok (.vaults (trim deployment)))
  | registeredValidators {deployment : String} {vault : Address}
      (h : r.readQuery (Codec.record "VaultQuery" vaultShape) = .ok (deployment, vault, ())) :
      Asked r .registeredValidators deployment (.ok (.registeredValidators (trim deployment) vault))
  | validatorsInfo {deployment : String} {vault : Address}
      (h : r.readQuery (Codec.record "VaultQuery" vaultShape) = .ok (deployment, vault, ())) :
      Asked r .validatorsInfo deployment (.ok (.validatorCounts (trim deployment) vault))
  | managerSignature {deployment : String} {vault : Address} {root : Root}
      {deposits : List Service.DepositData} {exitMessages : List String}
      (h : r.readBody (Codec.record "ValidatorManagerSignatureRequest" validatorsShape) =
        .ok (deployment, vault, root, deposits, exitMessages, ())) :
      Asked r .managerSignature deployment
        (.ok (.managerSignature (trim deployment) vault root deposits exitMessages))
  | registeredAddress {deployment : String}
      (h : r.readQuery (Codec.record "DeploymentQuery" deploymentShape) = .ok (deployment, ())) :
      Asked r .registeredAddress deployment (.ok (.registeredAddress (trim deployment)))
  | registrationSignature {deployment : String}
      (h : r.readQuery (Codec.record "DeploymentQuery" deploymentShape) = .ok (deployment, ())) :
      Asked r .registrationSignature deployment (.ok (.registrationSignature (trim deployment)))
  | depositSignature {deployment : String} {minipool : Address} {text : String} {salt : Salt}
      (h : r.readQuery (Codec.record "DepositSignatureQuery" depositShape) =
        .ok (deployment, minipool, text, ()))
      (hsalt : Salt.parse (trim text) = .ok salt) :
      Asked r .depositSignature deployment (.ok (.depositSignature (trim deployment) minipool salt))
  | malformedSalt {deployment : String} {minipool : Address} {text : String} {fault : Salt.Fault}
      (h : r.readQuery (Codec.record "DepositSignatureQuery" depositShape) =
        .ok (deployment, minipool, text, ()))
      (hsalt : Salt.parse (trim text) = .error fault) :
      Asked r .depositSignature deployment
        (.error ("invalid salt '" ++ text ++ "': " ++ fault.message))
  | minipoolValidators {deployment : String}
      (h : r.readQuery (Codec.record "DeploymentQuery" deploymentShape) = .ok (deployment, ())) :
      Asked r .minipoolValidators deployment (.ok (.minipoolValidators (trim deployment)))
  | uploadExits {deployment : String} {messages : List Service.ExitMessage}
      (h : r.readBody (Codec.record "UploadSignedExitsRequest" exitsShape) =
        .ok (deployment, messages, ())) :
      Asked r .uploadExits deployment (.ok (.uploadExits (trim deployment) messages))

/-- What can be read asks for something. -/
lemma Asked.of_readInput {m : ModuleRoute} {r : Request} {input : ModuleInput}
    (h : m.readInput r = .ok input) :
    ∃ asked, Asked r m input.deployment asked ∧
      input.operation (trim input.deployment) = asked.mapError .badRequest := by
  cases m with
  | vaults =>
    obtain ⟨⟨deployment, ⟨⟩⟩, hread, rfl⟩ := map_eq_ok_iff.mp h
    exact ⟨_, .vaults hread, rfl⟩
  | registeredValidators =>
    obtain ⟨⟨deployment, vault, ⟨⟩⟩, hread, rfl⟩ := map_eq_ok_iff.mp h
    exact ⟨_, .registeredValidators hread, rfl⟩
  | validatorsInfo =>
    obtain ⟨⟨deployment, vault, ⟨⟩⟩, hread, rfl⟩ := map_eq_ok_iff.mp h
    exact ⟨_, .validatorsInfo hread, rfl⟩
  | managerSignature =>
    obtain ⟨⟨deployment, vault, root, deposits, exitMessages, ⟨⟩⟩, hread, rfl⟩ := map_eq_ok_iff.mp h
    exact ⟨_, .managerSignature hread, rfl⟩
  | registeredAddress =>
    obtain ⟨⟨deployment, ⟨⟩⟩, hread, rfl⟩ := map_eq_ok_iff.mp h
    exact ⟨_, .registeredAddress hread, rfl⟩
  | registrationSignature =>
    obtain ⟨⟨deployment, ⟨⟩⟩, hread, rfl⟩ := map_eq_ok_iff.mp h
    exact ⟨_, .registrationSignature hread, rfl⟩
  | depositSignature =>
    obtain ⟨⟨deployment, minipool, text, ⟨⟩⟩, hread, rfl⟩ := map_eq_ok_iff.mp h
    cases hsalt : Salt.parse (trim text) with
    | ok salt =>
      refine ⟨_, .depositSignature hread hsalt, ?_⟩
      simp only [readSalt, hsalt]
      rfl
    | error fault =>
      refine ⟨_, .malformedSalt hread hsalt, ?_⟩
      simp only [readSalt, hsalt]
      rfl
  | minipoolValidators =>
    obtain ⟨⟨deployment, ⟨⟩⟩, hread, rfl⟩ := map_eq_ok_iff.mp h
    exact ⟨_, .minipoolValidators hread, rfl⟩
  | uploadExits =>
    obtain ⟨⟨deployment, messages, ⟨⟩⟩, hread, rfl⟩ := map_eq_ok_iff.mp h
    exact ⟨_, .uploadExits hread, rfl⟩

/-! ### Requirements -/

lemma checkWallet_eq_ok {s : Wallet.Status} (h : Requirement.checkWallet s = .ok ()) : s.isReady := by
  unfold Requirement.checkWallet at h
  split_ifs at h with hkey haddress hmatch
  simp_all [Wallet.Status.isReady]

lemma checkWallet_eq_error {s : Wallet.Status} {requirement : Requirement}
    (h : Requirement.checkWallet s = .error requirement) :
    s.isReady = false ∧ Problem.ofRequirement requirement = .walletNotReady requirement.message := by
  unfold Requirement.checkWallet at h
  split_ifs at h with hkey haddress hmatch
  · cases h
    exact ⟨by simp_all [Wallet.Status.isReady], rfl⟩
  · cases h
    exact ⟨by simp_all [Wallet.Status.isReady], rfl⟩
  · cases h
    exact ⟨by simp_all [Wallet.Status.isReady], rfl⟩

/-- What a look at the registration status requires. -/
def judge : Status × Option Error → Except Requirement Unit
  | (.registered, _) => .ok ()
  | (.unregistered, _) => .error .notRegistered
  | (.noWallet, _) => .error .walletNotReady
  | (.unknown, error?) =>
    .error (.unknownStatus .unknown
      (error?.getD (.invalidResponse "registration status could not be determined")))

lemma requireRegistered_eq : Act.requireRegistered = judge <$> Act.registrationStatus := by
  rw [map_eq_pure_bind, Act.requireRegistered]
  refine bind_congr fun (status, error?) => ?_
  cases status <;> rfl

/-! ### Answers -/

/-- The status and the code that report an error are chosen by its root. -/
inductive Reports : Error → Problem → Prop where
  | input (e : Error) (h : ∃ text, e.root = .invalidEmail text ∨ e.root = .invalidInput text) :
      Reports e ⟨400, "invalid_input", e.message⟩
  | wallet (e : Error) (h : e.root = .walletNotReady ∨ e.root = .walletNotLoaded) :
      Reports e ⟨409, "wallet_not_ready", e.message⟩
  | other (e : Error) (hemail : ∀ text, e.root ≠ .invalidEmail text)
      (hinput : ∀ text, e.root ≠ .invalidInput text) (hready : e.root ≠ .walletNotReady)
      (hloaded : e.root ≠ .walletNotLoaded) : Reports e ⟨500, "nodeset_error", e.message⟩

lemma Reports.ofError (e : Error) : Reports e (.ofError e) := by
  unfold Problem.ofError
  split
  · exact .wallet e (.inl ‹_›)
  · exact .wallet e (.inr ‹_›)
  · exact .input e ⟨_, .inl ‹_›⟩
  · exact .input e ⟨_, .inr ‹_›⟩
  · rename_i hready hloaded hemail hinput
    exact .other e hemail hinput hready hloaded

/-- The input asks for an operation, and the wallet is ready for it. -/
structure IsReady (deployment : String) (asked : Except String Operation) (w : World)
    (o : Operation) : Prop where
  deployment : trim deployment ≠ ""
  asked : asked = .ok o
  wallet : w.wallet.isReady

/-- The ways in which the answer to a request to a module can come about, with the world that each of them
leaves. There is no answer if the service leaves a call hanging. -/
inductive GateRule (deployment : String) (asked : Except String Operation) (context : Context)
    (w : World) : Option Response → World → Prop where
  /-- No deployment is named. -/
  | deploymentMissing (hdeployment : trim deployment = "") :
      GateRule deployment asked context w
        (some (.ofProblem ⟨400, "invalid_input", "deployment is required"⟩)) w
  /-- The salt is none. -/
  | saltMalformed (message : String) (hdeployment : trim deployment ≠ "")
      (hasked : asked = .error message) :
      GateRule deployment asked context w
        (some (.ofProblem ⟨400, "invalid_input", message⟩)) w
  /-- The wallet is not ready. -/
  | walletUnready (o : Operation) (message : String) (hdeployment : trim deployment ≠ "")
      (hasked : asked = .ok o) (hwallet : w.wallet.isReady = false) :
      GateRule deployment asked context w
        (some (.ofProblem ⟨409, "wallet_not_ready", message⟩)) w
  /-- The look at the registration status is dropped. -/
  | lookUpDropped (o : Operation) (w' : World) (hready : IsReady deployment asked w o)
      (hlookUp : LookUpRule context w none w') :
      GateRule deployment asked context w none w'
  /-- The node is not registered. -/
  | unregistered (o : Operation) (error? : Option Error) (w' : World)
      (hready : IsReady deployment asked w o)
      (hlookUp : LookUpRule context w (some (.unregistered, error?)) w')
      (hblank : ∀ member ∈ o.members (.refused .notRegistered), member.2.IsBlank) :
      GateRule deployment asked context w
        (some (.json 200 (.object
          (("notRegistered", .bool true) :: o.members (.refused .notRegistered))))) w'
  /-- The wallet turns out not to be fit for logging in. -/
  | walletMissing (o : Operation) (message : String) (error? : Option Error) (w' : World)
      (hready : IsReady deployment asked w o)
      (hlookUp : LookUpRule context w (some (.noWallet, error?)) w') :
      GateRule deployment asked context w
        (some (.ofProblem ⟨409, "wallet_not_ready", message⟩)) w'
  /-- The login fails, and so it is not known whether the node is registered. -/
  | unknown (o : Operation) (e : Error) (w' : World) (hready : IsReady deployment asked w o)
      (hlookUp : LookUpRule context w (some (.unknown, some e)) w') :
      GateRule deployment asked context w
        (some (.ofProblem
          ⟨500, "nodeset_error", "unknown registration status [Unknown]: " ++ e.message⟩)) w'
  /-- The operation is dropped. -/
  | operationDropped (o : Operation) (error? : Option Error) (w₁ w' : World)
      (hready : IsReady deployment asked w o)
      (hlookUp : LookUpRule context w (some (.registered, error?)) w₁)
      (hrun : o.run context w₁ = (none, w')) :
      GateRule deployment asked context w none w'
  /-- The operation has been carried out. -/
  | answered (o : Operation) (error? : Option Error) (a : Answer) (w₁ w' : World)
      (hready : IsReady deployment asked w o)
      (hlookUp : LookUpRule context w (some (.registered, error?)) w₁)
      (hrun : o.run context w₁ = (some (.ok a), w'))
      (hnames : (o.members a).map Prod.fst = (o.members (.refused .notRegistered)).map Prod.fst) :
      GateRule deployment asked context w
        (some (.json 200 (.object (("notRegistered", .bool false) :: o.members a)))) w'
  /-- The operation has failed. -/
  | failed (o : Operation) (error? : Option Error) (e : Error) (p : Problem) (w₁ w' : World)
      (hready : IsReady deployment asked w o)
      (hlookUp : LookUpRule context w (some (.registered, error?)) w₁)
      (hrun : o.run context w₁ = (some (.error e), w')) (hreports : Reports e p) :
      GateRule deployment asked context w (some (.ofProblem p)) w'

namespace GateRule

variable {deployment : String} {asked : Except String Operation} {o : Operation}
  {context : Context} {w : World}

lemma of_runRegistered (hready : IsReady deployment asked w o) {error? : Option Error} {w₁ : World}
    (hlookUp : LookUpRule context w (some (.registered, error?)) w₁) {x : Act Response}
    (hx : x = (o.run >>= fun
      | .ok answer => pure (.json 200 (o.toJson answer))
      | .error error => pure (.ofError error))) :
    GateRule deployment asked context w (x context w₁).1 (x context w₁).2 := by
  rw [hx, Act.run_bind]
  match hrun : o.run context w₁ with
  | (none, w') => exact operationDropped o error? w₁ w' hready hlookUp hrun
  | (some (.ok a), w') =>
    obtain ⟨hjson, hnames⟩ := Operation.toJson_of_run hrun
    simpa [hjson] using answered o error? a w₁ w' hready hlookUp hrun hnames
  | (some (.error e), w') => exact failed o error? e _ w₁ w' hready hlookUp hrun (.ofError e)

lemma of_lookUp (hready : IsReady deployment asked w o) {status : Status} {error? : Option Error}
    {w₁ : World} (hlookUp : LookUpRule context w (some (status, error?)) w₁) {x : Act Response}
    (hx : x = match judge (status, error?) with
      | .error .notRegistered => pure (.json 200 (o.toJson (.refused .notRegistered)))
      | .error requirement => pure (.ofRequirement requirement)
      | .ok () => o.run >>= fun
        | .ok answer => pure (.json 200 (o.toJson answer))
        | .error error => pure (.ofError error)) :
    GateRule deployment asked context w (x context w₁).1 (x context w₁).2 := by
  subst hx
  cases status with
  | registered => exact of_runRegistered hready hlookUp rfl
  | unregistered =>
    have hrule := unregistered o error? w₁ hready hlookUp fun _ h => o.isBlank_of_mem_members h
    simpa [judge, o.toJson_eq, Answer.flag?] using hrule
  | noWallet => exact walletMissing o _ error? w₁ hready hlookUp
  | unknown =>
    cases error? with
    | none => exact absurd hlookUp.isKnown_eq (by decide)
    | some e => exact unknown o e w₁ hready hlookUp

lemma of_runGated (hdeployment : trim deployment ≠ "") (hasked : asked = .ok o) :
    GateRule deployment asked context w (runGated o context w).1 (runGated o context w).2 := by
  have hsame : w.walletStatus.isReady = w.wallet.isReady := rfl
  match hcheck : Requirement.checkWallet w.walletStatus with
  | .error requirement =>
    obtain ⟨hwallet, hproblem⟩ := checkWallet_eq_error hcheck
    have hrun : runGated o context w =
        (some (.ofProblem (.walletNotReady requirement.message)), w) := by
      simp [runGated, Act.requireWallet, Act.run_bind, hcheck, Response.ofRequirement, hproblem]
    rw [hrun]
    exact walletUnready o _ hdeployment hasked (hsame ▸ hwallet)
  | .ok () =>
    have hready : IsReady deployment asked w o :=
      ⟨hdeployment, hasked, hsame ▸ checkWallet_eq_ok hcheck⟩
    simp only [runGated, Act.requireWallet, Act.run_bind, Act.run_world, Act.run_pure, hcheck,
      requireRegistered_eq, Act.run_map]
    match hlookUp : Act.registrationStatus context w with
    | (none, w₁) => exact lookUpDropped o w₁ hready (.of_registrationStatus hlookUp)
    | (some (status, error?), w₁) =>
      exact of_lookUp hready (.of_registrationStatus hlookUp) rfl

/-- There are no other ways for an answer to a request to a module to come about. -/
theorem of_respond {m : ModuleRoute} {r : Request} {input : ModuleInput}
    (hinput : m.readInput r = .ok input) (context : Context) (w : World) :
    ∃ asked, Asked r m input.deployment asked ∧
      GateRule input.deployment asked context w (m.respond r context w).1
        (m.respond r context w).2 := by
  obtain ⟨asked, hasked, hoperation⟩ := Asked.of_readInput hinput
  refine ⟨asked, hasked, ?_⟩
  simp only [ModuleRoute.respond, hinput, ModuleInput.resolve, ← trim_eq_empty_iff, hoperation]
  split_ifs with hdeployment
  · exact deploymentMissing hdeployment
  · cases asked with
    | error message => exact saltMalformed message hdeployment rfl
    | ok o => exact of_runGated hdeployment rfl

end GateRule

/-! ### Requests to the service -/

/-- The gate is open: the wallet is ready for the operation that is asked for, and the node is
registered. -/
def IsOpen (deployment : String) (asked : Except String Operation) (context : Context)
    (w : World) : Prop :=
  ∃ o error? w₁, IsReady deployment asked w o ∧
    LookUpRule context w (some (.registered, error?)) w₁

/-- At most six calls are made, and modules are called only through the open gate. -/
lemma GateRule.bounds {deployment : String} {asked : Except String Operation} {context : Context}
    {w w' : World} {answer? : Option Response}
    (h : GateRule deployment asked context w answer? w') :
    ∃ events, w'.log = w.log ++ events ∧ events.countP Event.isCall ≤ 6 ∧
      (0 < events.countP Event.isModuleCall → IsOpen deployment asked context w) := by
  have hlookUp {result : Option (Status × Option Error)} {w' : World}
      (h : LookUpRule context w result w') : ∃ events, w'.log = w.log ++ events ∧
        events.countP Event.isCall ≤ 6 ∧
        (0 < events.countP Event.isModuleCall → IsOpen deployment asked context w) := by
    obtain ⟨events, hlog, -, hcalls, hmodule⟩ := h.bounds
    exact ⟨events, hlog, Nat.le_trans hcalls (by decide), fun h => by simp [hmodule] at h⟩
  have hrun {o : Operation} {error? : Option Error} {w₁ : World}
      (hready : IsReady deployment asked w o)
      (h : LookUpRule context w (some (.registered, error?)) w₁) :
      ∃ events, (o.run context w₁).2.log = w.log ++ events ∧ events.countP Event.isCall ≤ 6 ∧
        (0 < events.countP Event.isModuleCall → IsOpen deployment asked context w) := by
    obtain ⟨events, hlog, -, hcalls, -⟩ := h.bounds
    obtain ⟨events', hlog', hcalls'⟩ := o.calls_le context w₁
    refine ⟨events ++ events', by rw [hlog', hlog, List.append_assoc], ?_,
      fun _ => ⟨o, error?, w₁, hready, h⟩⟩
    rw [List.countP_append]
    exact Nat.add_le_add hcalls hcalls'
  cases h with
  | deploymentMissing | saltMalformed | walletUnready =>
    exact ⟨[], by simp, Nat.zero_le 6, fun h => absurd h (by decide)⟩
  | lookUpDropped o w' hready h => exact hlookUp h
  | unregistered o error? w' hready h hblank => exact hlookUp h
  | walletMissing o message error? w' hready h => exact hlookUp h
  | unknown o e w' hready h => exact hlookUp h
  | operationDropped o error? w₁ w' hready h hresult => simpa [hresult] using hrun hready h
  | answered o error? a w₁ w' hready h hresult hnames => simpa [hresult] using hrun hready h
  | failed o error? e p w₁ w' hready h hresult hreports => simpa [hresult] using hrun hready h

/-! ### Requests to the daemon -/

/-- The answer to a request as it is sent: it bears the name of the request, and it has no body if only the
head is requested. -/
def Response.sentTo (answer : Response) (freshId : String) (r : Request) : Response :=
  { (if r.method = "HEAD" then answer.withoutBody else answer) with
    requestId := some ((r.header? requestIdHeader).getD freshId) }

@[simp] lemma Response.status_sentTo (answer : Response) (freshId : String) (r : Request) :
    (answer.sentTo freshId r).status = answer.status := by
  unfold Response.sentTo
  split_ifs <;> rfl

lemma handle_eq {r : Request} {route : Route} (hroute : Route.ofPath? r.path = some route)
    (hmethod : r.method ∈ route.allowed) (freshId : String) :
    handle freshId r = (fun answer => answer.sentTo freshId r) <$> route.respond r := by
  have hdispatch : dispatch r =
      (fun answer => if r.method = "HEAD" then answer.withoutBody else answer) <$>
        route.respond r := by
    simp only [Route.allowed] at hmethod
    split at hmethod
    · rename_i hbody
      obtain hpost := List.mem_singleton.mp hmethod
      simp [dispatch, hroute, Route.method, hbody, hpost]
    · rename_i hbody
      obtain hget | hhead : r.method = "GET" ∨ r.method = "HEAD" := by simpa using hmethod
      · simp [dispatch, hroute, Route.method, hbody, hget]
      · simp [dispatch, hroute, Route.method, Route.allowed, hbody, hhead]
  have hoptions : r.method ≠ "OPTIONS" := by
    rintro h
    simp only [Route.allowed] at hmethod
    split at hmethod <;> simp [h] at hmethod
  rw [handle, if_neg hoptions, hdispatch, map_eq_pure_bind, map_eq_pure_bind, bind_assoc]
  refine bind_congr fun answer => ?_
  simp [Response.sentTo]

/-- A request for the vaults of a deployment. -/
def Request.sample : Request where
  method := "GET"
  target := "/api/v1/nodeset/stakewise/get-vaults?deployment=d"
  headers := []
  body := []

/-- The world of a node that has not logged in yet, and whose service grants a login and then lists no
vaults. -/
def freshWorld : World where
  wallet := Wallet.empty.load .sample
  replies := Service.Reply.login ++ [.granting "\x7b\"vaults\":[]\x7d"]

end OperatorDaemon.Api
