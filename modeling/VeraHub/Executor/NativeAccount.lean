import VeraHub.Library.Exec
import VeraHub.Library.OrderedMap

/-!
# Nonces of native accounts

The store keeps the next nonce of each signer under its DID.  An account that
is not stored starts at zero.
-/

namespace VeraHub.Executor

/-- Nonce validation error. -/
inductive NonceError where
  | mismatch (did : String) (expected got : UInt64)
  | overflow (did : String)
  | malformed (did : String)
deriving DecidableEq, Repr

def nativeNoncePrefix : Bytes :=
  utf8 "native_nonce/"

def nativeNonceKey (did : String) : Bytes :=
  nativeNoncePrefix ++ utf8 did

theorem nativeNonceKey_injective : Function.Injective nativeNonceKey := by
  intro first second same
  have names : utf8 first = utf8 second := List.append_cancel_left same
  exact utf8_injective names

structure NativeNonceStore where
  store : OrderedMap Bytes Bytes

namespace NativeNonceStore

def empty : NativeNonceStore :=
  ⟨OrderedMap.empty⟩

/-- The next nonce of an account; a value that is not eight bytes long is
reported. -/
def getNonce (nonces : NativeNonceStore) (did : String) :
    Except NonceError UInt64 :=
  match nonces.store.get (nativeNonceKey did) with
  | none => .ok 0
  | some bytes =>
    match fromLeBytes bytes with
    | some nonce => .ok nonce
    | none => .error (.malformed did)

/-- Compare a transaction's nonce with the stored one and advance it. -/
def checkAndIncrement (did : String) (txNonce : UInt64) :
    Exec NativeNonceStore NonceError Unit := do
  let expected ← Exec.query fun nonces => nonces.getNonce did
  Exec.failIf (txNonce ≠ expected) (.mismatch did expected txNonce)
  let next ← Exec.ofExcept ((checkedSucc expected).elim (.error (.overflow did)) .ok)
  Exec.modify fun nonces =>
    ⟨nonces.store.insert (nativeNonceKey did) (leBytes next)⟩

theorem getNonce_empty (did : String) : empty.getNonce did = .ok 0 :=
  rfl

/-- What the check can do: it fails and leaves the store, or the nonce was the
expected one and is advanced, all other accounts being left alone. -/
theorem checkAndIncrement_cases (did : String) (txNonce : UInt64) (nonces : NativeNonceStore) :
    (∃ error, (checkAndIncrement did txNonce).run nonces = (.error error, nonces)) ∨
    (∃ advanced next,
      (checkAndIncrement did txNonce).run nonces = (.ok (), advanced) ∧
        nonces.getNonce did = .ok txNonce ∧ checkedSucc txNonce = some next ∧
        advanced.getNonce did = .ok next ∧
        ∀ other, other ≠ did → advanced.getNonce other = nonces.getNonce other) := by
  unfold checkAndIncrement
  rcases read : nonces.getNonce did with error | expected
  · exact Or.inl ⟨error, by simp [Exec.run_bind, read]⟩
  · by_cases same : txNonce = expected
    · rcases added : checkedSucc expected with _ | next
      · refine Or.inl ⟨.overflow did, ?_⟩
        simp [Exec.run_bind, read, same, added]
      · refine Or.inr ⟨⟨nonces.store.insert (nativeNonceKey did)
          (leBytes next)⟩, next, ?_, ?_, ?_, ?_, ?_⟩
        · simp [Exec.run_bind, read, same, added]
        · rw [same]
        · rw [same, added]
        · simp only [getNonce, OrderedMap.get_insert_self, fromLeBytes_leBytes]
        · intro other different
          have otherKey : nativeNonceKey other ≠ nativeNonceKey did :=
            fun keys => different (nativeNonceKey_injective keys)
          simp only [getNonce, OrderedMap.get_insert_of_ne _ (leBytes next) otherKey]
    · refine Or.inl ⟨.mismatch did expected txNonce, ?_⟩
      simp [Exec.run_bind, read, same]

end NativeNonceStore

end VeraHub.Executor
