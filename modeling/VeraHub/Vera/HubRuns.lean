import VeraHub.Vera.Delegation
import VeraHub.Vera.OperatorRuns

/-!
# Runs of both modules

What a delegated operation can do is said once: it is rejected, answered from
a kept outcome, or performed.  A run is any sequence of direct calls, delegated
operations, administrative requests, token messages, sweeps and writes of the
threshold services.
-/

namespace VeraHub.Vera

open VeraHub.Zanzibar VeraHub.Acp VeraModule
open Exec (Wp)

namespace VeraModule

/-! ## Accepted tokens -/

section Accepted

variable {crypto : Crypto} {context : BlockExecCtx} {caller : Did}
  {token : String} {scope : DelegationScope} {operation : Bytes}
  {module : VeraModule} {claims : JwtClaims}

variable (crypto context caller token scope operation module claims) in
/-- The checks that an accepted token passed. -/
structure Accepted : Prop where
  verified : verifiedClaims crypto token = .ok claims
  covered : checkScope scope claims = .ok ()
  addressed : checkCaller context caller claims = .ok ()
  relayed : authorizeRelay crypto claims operation context module = .ok ()
  bound : checkRequest context operation claims = .ok ()
  current : checkRevocation crypto token module = .ok ()

theorem authorizeDelegation_ok
    (authorized : authorizeDelegation crypto context caller token scope
      operation module = .ok claims) :
    Accepted crypto context caller token scope operation module claims := by
  unfold authorizeDelegation at authorized
  obtain ⟨found, verified, authorized⟩ := exceptBind_ok authorized
  obtain ⟨_, covered, authorized⟩ := exceptBind_ok authorized
  obtain ⟨_, addressed, authorized⟩ := exceptBind_ok authorized
  obtain ⟨_, relayed, authorized⟩ := exceptBind_ok authorized
  obtain ⟨_, bound, authorized⟩ := exceptBind_ok authorized
  obtain ⟨_, current, authorized⟩ := exceptBind_ok authorized
  cases authorized
  exact ⟨verified, covered, addressed, relayed, bound, current⟩

end Accepted

end VeraModule

namespace Hub

/-! ## Delegated operations -/

section Inversion

variable (externals : HubExternals) (context : BlockExecCtx)
  (submission : TxExecCtx) (token : String) (scope : DelegationScope) (digest : Bytes) (hub : Hub)

/-- The token is accepted, and the identities it names are well formed. -/
structure Authorized (caller actor issuer : Did) (claims : JwtClaims) : Prop where
  signer : AcpModule.parseIdentity submission.signer = .ok caller
  accepted : authorizeDelegation externals.crypto context caller token scope
    digest hub.vera = .ok claims
  named : AcpModule.parseIdentity claims.actor = .ok actor
  signed : AcpModule.parseIdentity claims.iss = .ok issuer

/-- What a performed operation did: it ran, its outcome was kept and the use of
its token was recorded. -/
structure Performed (run : Did → HubM AcpError OperationResult)
    (actor issuer : Did) (claims : JwtClaims) (value : OperationResult)
    (middle kept final : Hub) : Prop where
  ran : (run actor).run hub = (.ok value, middle)
  completed : (keepOutcome externals context submission digest actor
    claims.request value).run middle = (.ok (), kept)
  recorded : (recordUse externals context token issuer claims).run kept = (.ok (), final)

/-- The three ends of a delegated operation. -/
inductive Delegated (read : OperationResult → Except String OperationResult)
    (run : Did → HubM AcpError OperationResult) : Except AcpError OperationResult → Hub → Prop where
  | rejected (failure : AcpError) : Delegated read run (.error failure) hub
  | replayed (caller actor issuer : Did) (claims : JwtClaims)
      (request : OperationClaim) (record : OperationRecord)
      (authorized : Authorized externals context submission token scope digest
        hub caller actor issuer claims)
      (identified : claims.request = some request)
      (found : AcpModule.operation externals.acp actor.asStr request.id.bytes
        hub.acp = .ok (some record)) :
      Delegated read run (AcpModule.replayed read digest request.id.bytes record) hub
  | performed (caller actor issuer : Did) (claims : JwtClaims)
      (authorized : Authorized externals context submission token scope digest
        hub caller actor issuer claims)
      (fresh : ∀ request ∈ claims.request,
        submission.txHash.length = 32 ∧
          AcpModule.operation externals.acp actor.asStr request.id.bytes hub.acp = .ok none)
      (value : OperationResult) (middle kept final : Hub)
      (done : Performed externals context submission token digest hub run
        actor issuer claims value middle kept final) :
      Delegated read run (.ok value) final

variable {externals context submission token scope digest hub}
  {post : Except AcpError OperationResult → Hub → Prop} {run : Did → HubM AcpError OperationResult}

/-- A performed operation leaves both modules as they were when any of its
parts fails. -/
theorem performDelegated_wp {actor issuer : Did} {claims : JwtClaims}
    (failed : ∀ failure, post (.error failure) hub)
    (succeeded : ∀ value middle kept final,
      Performed externals context submission token digest hub run actor issuer
        claims value middle kept final → post (.ok value) final) :
    (performDelegated externals context submission token digest actor issuer
      claims run).Wp post hub := by
  apply Wp.restoring
  apply Wp.step
  · intro failure _ _
    exact failed failure
  intro value middle ran
  apply Wp.step
  · intro failure _ _
    exact failed failure
  intro _ kept outcome
  apply Wp.step
  · intro failure _ _
    exact failed failure
  intro _ final used
  exact succeeded value middle kept final ⟨ran, outcome, used⟩

theorem withDelegation_wp {read : OperationResult → Except String OperationResult} :
    (withDelegation externals context submission token scope digest read run).Wp
      (Delegated externals context submission token scope digest hub read run)
      hub := by
  unfold withDelegation
  apply Wp.ofExcept
  · intro failure _
    exact .rejected failure
  intro caller callerParsed
  apply Wp.query
  · intro failure _
    exact .rejected failure
  intro claims accepted
  apply Wp.ofExcept
  · intro failure _
    exact .rejected failure
  intro actor actorParsed
  apply Wp.ofExcept
  · intro failure _
    exact .rejected failure
  intro issuer issuerParsed
  have authorized : Authorized externals context submission token scope digest
      hub caller actor issuer claims :=
    ⟨callerParsed, mapError_ok accepted, actorParsed, issuerParsed⟩
  cases identified : claims.request with
  | none =>
    apply performDelegated_wp .rejected
    intro value middle kept final done
    refine .performed caller actor issuer claims authorized ?_ value middle kept final done
    intro request named
    rw [identified] at named
    cases named
  | some request =>
    apply Wp.failIf
    · intro _
      exact .rejected _
    intro width
    apply Wp.query
    · intro failure _
      exact .rejected failure
    intro stored found
    cases stored with
    | some record =>
      exact .replayed caller actor issuer claims request record authorized identified found
    | none =>
      apply performDelegated_wp .rejected
      intro value middle kept final done
      refine .performed caller actor issuer claims authorized ?_ value middle kept final done
      intro other named
      rw [identified] at named
      cases named
      exact ⟨not_not.mp width, found⟩

theorem withDelegation_of_kept {read : OperationResult → Except String OperationResult}
    {run : Did → HubM AcpError OperationResult} {caller actor issuer : Did}
    {claims : JwtClaims} {request : OperationClaim} {record : OperationRecord}
    (authorized : Authorized externals context submission token scope digest
      hub caller actor issuer claims)
    (identified : claims.request = some request) (width : submission.txHash.length = 32)
    (found : AcpModule.operation externals.acp actor.asStr request.id.bytes
      hub.acp = .ok (some record)) :
    (withDelegation externals context submission token scope digest read run).run hub =
      (AcpModule.replayed read digest request.id.bytes record, hub) := by
  unfold withDelegation
  have accepted : (authorizeDelegation externals.crypto context caller token
      scope digest hub.vera).mapError invalidBearer = .ok claims := by
    rw [authorized.accepted]
    rfl
  rw [Exec.run_ofExcept_bind authorized.signer, Exec.run_query_bind hub accepted,
    Exec.run_ofExcept_bind authorized.named, Exec.run_ofExcept_bind authorized.signed, identified]
  change (Exec.failIf _ _ >>= _).run hub = _
  rw [Exec.run_failIf_bind (not_not.mpr width), Exec.run_query_bind hub found]
  rfl

/-- A submitted operation fails before its token is looked at, or comes to one
of the three ends. -/
theorem delegate_wp {operation : DelegatedOperation} (failed : ∀ failure, post (.error failure) hub)
    (delegated : ∀ worker result final,
      Delegated externals context submission token operation.scope
        (operation.digest externals) hub operation.readResult
        (fun actor => body externals context submission actor worker
          operation) result final → post result final) :
    (delegate externals context submission token operation).Wp post hub := by
  unfold delegate
  apply Wp.ofExcept
  · intro failure _
    exact failed failure
  intro _ _
  apply Wp.ofExcept
  · intro failure _
    exact failed failure
  intro worker _
  apply Wp.weaken withDelegation_wp
  intro result final reached
  exact delegated worker result final reached

end Inversion

end Hub

/-! ## Calls -/

/-- Calls of the access control module that take no token. -/
def isDirect : AcpCall → Bool
  | .bearerCreatePolicy _ _ _ _ _ _ => false
  | .bearerEditPolicy _ _ _ _ _ _ _ => false
  | .bearerPolicyCmd _ _ _ _ _ _ => false
  | .bearerCheckAccess _ _ _ _ _ _ => false
  | .foreignDelegated _ _ _ _ _ => false
  | _ => true

/-- Keys of the threshold services and of the consensus rosters. -/
def isServiceKey (key : Bytes) : Bool :=
  (utf8 "orbis/").isPrefixOf key || (utf8 "consensus_roster/").isPrefixOf key

/-- A call of either module. -/
inductive HubCall where
  | acp (call : AcpCall) (direct : isDirect call = true)
  | delegate (context : BlockExecCtx) (submission : TxExecCtx)
      (token : String) (operation : DelegatedOperation)
  | seedOperators (policy : OperatorPolicy)
  | administer (call : AdminCall)
  | revoke (context : BlockExecCtx) (caller : Did) (token : String)
  | invalidate (block : BlockExecCtx) (tx : TxExecCtx) (creator : Did) (tokenHash : String)
  | sweep (block : BlockExecCtx)
  | configure (config : ChainConfig)
  | service (key : Bytes) (isService : isServiceKey key = true) (record : Option Bytes)

/-- The block time a call of the access control module runs at. -/
def acpTime : AcpCall → Option UInt64
  | .checkAccess _ _ _ block _ => some block.timestamp.seconds
  | .executePolicyCmd _ _ _ block _ => some block.timestamp.seconds
  | .endBlocker block => some block.timestamp.seconds
  | _ => none

def HubCall.time : HubCall → Option UInt64
  | .acp call _ => acpTime call
  | .delegate context _ _ _ => some context.timestamp.seconds
  | .administer call => some call.now
  | .revoke context _ _ => some context.timestamp.seconds
  | .invalidate block _ _ _ => some block.timestamp.seconds
  | .sweep block => some block.timestamp.seconds
  | _ => none

def Timed (calls : List HubCall) : Prop :=
  (calls.filterMap HubCall.time).Pairwise (· ≤ ·)

instance (calls : List HubCall) : Decidable (Timed calls) :=
  inferInstanceAs (Decidable (List.Pairwise _ _))

namespace VeraModule

/-- The module after a service wrote or deleted a record. -/
def withService (key : Bytes) (record : Option Bytes) (module : VeraModule) :
    VeraModule :=
  match record with
  | some bytes => module.withStored key (.service bytes)
  | none => module.withoutStored key

end VeraModule

namespace Hub

def new : Hub :=
  ⟨AcpModule.new, VeraModule.new⟩

section Runs

variable (externals : HubExternals)

/-- The state a call leaves, whether it succeeds or fails. -/
def perform (hub : Hub) (call : HubCall) : Hub :=
  match call with
  | .acp call _ =>
    { hub with acp := AcpModule.perform externals.acp hub.acp call }
  | .delegate context submission token operation =>
    ((delegate externals context submission token operation).run hub).2
  | .seedOperators policy =>
    { hub with
      vera := ((initializeAdministration externals.crypto policy).run hub.vera).2 }
  | .administer call => administer externals.crypto hub call
  | .revoke context caller token =>
    { hub with
      vera := ((revokeDelegation externals.crypto context caller token).run hub.vera).2 }
  | .invalidate block tx creator tokenHash =>
    { hub with
      vera := ((invalidateJws externals.crypto block tx creator tokenHash).run hub.vera).2 }
  | .sweep block =>
    { hub with vera := ((checkAndUpdateExpiredTokens block).run hub.vera).2 }
  | .configure config =>
    { hub with vera := ((setChainConfig config).run hub.vera).2 }
  | .service key _ record =>
    { hub with vera := hub.vera.withService key record }

def performAll (hub : Hub) (calls : List HubCall) : Hub :=
  calls.foldl (perform externals) hub

end Runs

end Hub

end VeraHub.Vera
