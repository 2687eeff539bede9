import AlphE.Schemas.Incident
import AlphE.Lib.CompactJson
import AlphE.Lib.Base64
import AlphE.Lib.IdealSignature
import AlphE.Lib.PyText

/-!
Signing and verification of intents (`security/action_intent.py`): the
canonical JSON text of the fields that say what an action does, its SHA-256
digest, and an Ed25519 signature over the digest.

SHA-256 and Ed25519 come from libraries and are parameters: a function from
bytes to a hexadecimal digest, and a signature scheme. Nothing is assumed of
them in the definitions; the results say what they need.
-/

namespace AlphE.Security

open CompactJson

/-- Raised when an intent fails verification; the field is the message. -/
structure IntentVerificationError where
  message : String
  deriving DecidableEq, Repr

/-! ### The canonical text -/

def paramJson : ParamValue → Json
  | .str s => .str s
  | .int i => .int i
  | .bool b => .bool b

def parametersJson (parameters : Parameters) : Json :=
  .obj (parameters.items.map fun p => (p.1, paramJson p.2))

/-- The payload that is hashed. -/
def intentPayload (actionType target : String) (parameters : Parameters)
    (expectedEffect rollbackHint : String) : Json :=
  .obj
    [("action_type", .str actionType),
      ("expected_effect", .str expectedEffect),
      ("parameters", parametersJson parameters),
      ("rollback_hint", .str rollbackHint),
      ("target", .str target)]

section Signing

variable {κ ν : Type} (sha256 : Bytes → String) (ed25519 : SignatureScheme κ ν)

def computeIntentHash (actionType target : String) (parameters : Parameters)
    (expectedEffect rollbackHint : String) : String :=
  sha256 (dumps (intentPayload actionType target parameters expectedEffect
    rollbackHint)).encodeUtf8

/-- The hash of an intent's own fields. -/
def intentHash (intent : ActionIntent) : String :=
  computeIntentHash sha256 intent.actionType.value intent.target intent.parameters
    intent.expectedEffect intent.rollbackHint

/-- `Signer.sign`, with the private key the signer holds. -/
def sign (privateKey : κ) (intent : ActionIntent) : ActionIntent :=
  let hash := intentHash sha256 intent
  let rawSignature := ed25519.sign privateKey hash.encodeUtf8
  { intent with hash := hash, signature := Base64.b64encode rawSignature }

/-- `Verifier.verify`, with the public key the verifier holds. The library
raises `InvalidSignature`, which has no text. -/
def verify (isprintable : Char → Bool) (publicKey : ν) (intent : ActionIntent) :
    Except IntentVerificationError Bool :=
  let expectedHash := intentHash sha256 intent
  if intent.hash ≠ expectedHash then
    .error ⟨"Intent hash mismatch: stored=" ++ PyText.reprStr isprintable intent.hash ++
      ", computed=" ++ PyText.reprStr isprintable expectedHash ++
      ". The intent may have been tampered with."⟩
  else
    match Base64.b64decode intent.signature with
    | .error exc => .error ⟨"Ed25519 signature verification failed: " ++ exc⟩
    | .ok rawSignature =>
        if ed25519.verify publicKey rawSignature intent.hash.encodeUtf8 then .ok true
        else .error ⟨"Ed25519 signature verification failed: "⟩

/-- The verifier as the Coordinator calls it: the result is not looked at, an
exception is known by its text. -/
def check (isprintable : Char → Bool) (publicKey : ν) (intent : ActionIntent) :
    Except String Unit :=
  match verify sha256 ed25519 isprintable publicKey intent with
  | .ok _ => .ok ()
  | .error err => .error err.message

end Signing

/-! ### What the hash covers -/

theorem paramJson_injective : Function.Injective paramJson := by
  intro a b h
  cases a <;> cases b <;> simp_all [paramJson]

theorem sortKeys_paramJson (v : ParamValue) : sortKeys (paramJson v) = paramJson v := by
  cases v <;> rfl

theorem sortMembers_parameters (parameters : Parameters) :
    sortMembers (parameters.items.map fun p => (p.1, paramJson p.2)) =
      parameters.items.map fun p => (p.1, paramJson p.2) := by
  rw [sortMembers_eq_map, List.map_map]
  apply List.map_congr_left
  intro p _
  simp [sortKeys_paramJson]

/-- The canonical form of the parameters is theirs as a finite map. -/
theorem sortKeys_parametersJson (p q : Parameters) :
    sortKeys (parametersJson p) = sortKeys (parametersJson q) ↔ p.Equiv q := by
  have hkeys : ((p.items.map fun e => (e.1, paramJson e.2)).map Prod.fst).Nodup := by
    rw [List.map_map]
    exact p.keys_nodup
  have hinj : Function.Injective fun e : String × ParamValue => (e.1, paramJson e.2) := by
    rintro ⟨k, x⟩ ⟨j, y⟩ h
    obtain ⟨hk, hv⟩ := Prod.mk.inj h
    exact Prod.ext hk (paramJson_injective hv)
  rw [parametersJson, parametersJson, sortKeys_obj_eq_iff hkeys, sortMembers_parameters,
    sortMembers_parameters, List.map_perm_map_iff hinj, InsertionDict.equiv_iff_perm]

/-- Two payloads have one canonical text exactly when they agree on the five
fields, the parameters as finite maps. -/
theorem dumps_intentPayload_eq_iff (a a' t t' e e' r r' : String) (p p' : Parameters) :
    dumps (intentPayload a t p e r) = dumps (intentPayload a' t' p' e' r') ↔
      a = a' ∧ t = t' ∧ p.Equiv p' ∧ e = e' ∧ r = r' := by
  rw [dumps_eq_iff, intentPayload, intentPayload, sortKeys_obj_eq_iff_of_keys_eq]
  · simp only [sortMembers, sortKeys, List.cons.injEq, Prod.mk.injEq, Json.str.injEq,
      true_and, and_true, sortKeys_parametersJson]
    constructor
    · rintro ⟨ha, he, hp, hr, ht⟩
      exact ⟨ha, ht, hp, he, hr⟩
    · rintro ⟨ha, ht, hp, he, hr⟩
      exact ⟨ha, he, hp, hr, ht⟩
  · simp
  · rfl

end AlphE.Security
