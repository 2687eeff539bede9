import AlphE.Nodes.Models
import AlphE.Lib.IdealSignature
import AlphE.Lib.PyText

/-!
The Intake node and the Investigator node (`nodes/intake.py`,
`nodes/investigator.py`). What the LLM answers is a parameter; the conversation
that leads to the answer does not touch the state.
-/

namespace AlphE.Nodes

/-- `intake_node`. -/
def intakeNode (now : DateTime) (state : IncidentState) : StateUpdate :=
  { phase := some .investigating
    timeline := some (state.timeline ++
      [{ ts := now, actor := "orchestrator:intake", eventType := "intake.accepted" }])
    updatedAt := some now }

/-! ### The Investigator's helpers -/

/-- `_MAX_ATTEMPTS` of the Investigator. -/
def maxAttempts : ℕ := 5

/-- `_content_hash`. -/
def contentHash (sha256 : Bytes → String) (text : String) : String :=
  PyText.takeChars 16 (sha256 text.encodeUtf8)

/-- `_ensure_id`. -/
def ensureId (sha256 : Bytes → String) (h : Hypothesis) : Hypothesis :=
  if h.id.isEmpty then { h with id := contentHash sha256 h.text } else h

/-- `{h.id: h for h in existing}`. -/
def byId (existing : List Hypothesis) : InsertionDict String Hypothesis :=
  existing.foldl (fun d h => d.set h.id h) ∅

/-- `_merge_hypotheses`. -/
def mergeHypotheses (existing proposed : List Hypothesis) : List Hypothesis :=
  (proposed.foldl (fun d p => d.set p.id p) (byId existing)).values

/-- `max(hs, key=score)`: the first hypothesis whose score is highest. -/
def highestScore : List Hypothesis → Option Hypothesis
  | [] => none
  | h :: hs =>
      some (hs.foldl (fun best g => if best.score.val < g.score.val then g else best) h)

/-- The focus of the answer, or the best-scored hypothesis when the answer
names none of those it proposes. -/
def focusOf (answer : InvestigatorOutput) (proposed : List Hypothesis) : String :=
  if answer.currentFocusHypothesisId ∈ proposed.map Hypothesis.id then
    answer.currentFocusHypothesisId
  else
    match highestScore proposed with
    | some h => h.id
    | none => ""

def investigatorEvent (now : DateTime) (eventType : String) : TimelineEvent :=
  { ts := now, actor := "orchestrator:investigator", eventType := eventType }

/-! ### The node -/

/-- `investigator_node`, with the answer the LLM gives when it is called. -/
def investigatorNode (now : DateTime) (sha256 : Bytes → String)
    (answer : InvestigatorOutput) (state : IncidentState) : StateUpdate :=
  if maxAttempts ≤ state.investigationAttempts then
    { investigationAttempts := some state.investigationAttempts
      timeline := some (state.timeline ++ [investigatorEvent now "investigator.cap_reached"])
      updatedAt := some now }
  else
    let proposed := answer.hypotheses.map (ensureId sha256)
    { hypotheses := some (mergeHypotheses state.hypotheses proposed)
      currentFocusHypothesisId := some (some (focusOf answer proposed))
      investigationAttempts := some (state.investigationAttempts + 1)
      timeline := some (state.timeline ++ [investigatorEvent now "investigator.tick"])
      updatedAt := some now }

/-! ### What a tick does to the state -/

section Tick

variable (now : DateTime) (sha256 : Bytes → String) (answer : InvestigatorOutput)
  (state : IncidentState)

theorem investigatorNode_attempts :
    (state.merge (investigatorNode now sha256 answer state)).investigationAttempts =
      if maxAttempts ≤ state.investigationAttempts then state.investigationAttempts
      else state.investigationAttempts + 1 := by
  unfold investigatorNode
  split <;> rfl

@[simp] theorem investigatorNode_actionIntents :
    (state.merge (investigatorNode now sha256 answer state)).actionIntents =
      state.actionIntents := by
  unfold investigatorNode
  split <;> rfl

theorem investigatorNode_hypotheses (h : state.investigationAttempts < maxAttempts) :
    (state.merge (investigatorNode now sha256 answer state)).hypotheses =
      mergeHypotheses state.hypotheses (answer.hypotheses.map (ensureId sha256)) := by
  rw [investigatorNode, if_neg (Nat.not_le.mpr h)]
  rfl

end Tick

/-! ### Merging keeps what there is -/

theorem items_foldl_set_eq_nil_iff (hs : List Hypothesis) (d : InsertionDict String Hypothesis) :
    (hs.foldl (fun d h => d.set h.id h) d).items = [] ↔ d.items = [] ∧ hs = [] := by
  induction hs generalizing d with
  | nil => simp
  | cons h hs ih =>
      rw [List.foldl_cons, ih]
      have hne := d.items_set_ne_nil h.id h
      simp [hne]

/-- Nothing comes out of a merge only when nothing goes in. -/
theorem mergeHypotheses_eq_nil_iff (existing proposed : List Hypothesis) :
    mergeHypotheses existing proposed = [] ↔ existing = [] ∧ proposed = [] := by
  rw [mergeHypotheses, InsertionDict.values, List.map_eq_nil_iff, items_foldl_set_eq_nil_iff,
    byId, items_foldl_set_eq_nil_iff]
  simp

/-- The ids after a merge are those of both sides. -/
theorem mem_ids_mergeHypotheses (existing proposed : List Hypothesis) (id : String) :
    id ∈ (mergeHypotheses existing proposed).map Hypothesis.id ↔
      id ∈ existing.map Hypothesis.id ∨ id ∈ proposed.map Hypothesis.id := by
  have hbyId : ∀ p ∈ (byId existing).items, p.2.id = p.1 :=
    InsertionDict.filed_foldl_set Hypothesis.id existing (by simp)
  rw [mergeHypotheses, InsertionDict.map_key_values Hypothesis.id
    (InsertionDict.filed_foldl_set Hypothesis.id proposed hbyId),
    InsertionDict.mem_keys_foldl_set Hypothesis.id, byId,
    InsertionDict.mem_keys_foldl_set Hypothesis.id]
  simp [InsertionDict.keys]

end AlphE.Nodes
