import PageBuilder.Proofs.Block.Sameness
/-! Field by field: what repaired props hold under a key is taken from the raw member under
that key, and from no other. -/
namespace PageBuilder.Block

open Json (Value)

variable {key : String} {v w : Value}

/-- A text is written under the name that it is read from. -/
theorem AgreeAt.written (h : AgreeAt key v w) (fallback : String) {name : String}
    (same : name = key) :
    Value.string (v.textOr fallback name) = .string (w.textOr fallback name) := by
  rw [same, h.textOr]

theorem Pitch.member?_repair_congr (d : Pitch) (h : AgreeAt key v w) :
    (d.repair v).toValue.member? key = (d.repair w).toValue.member? key := by
  refine Assoc.get?_cons_congr (h.written _) (Assoc.get?_cons_congr (h.written _) ?_)
  refine Assoc.get?_cons_congr (h.written _) (Assoc.get?_cons_congr (h.written _) ?_)
  exact Assoc.get?_cons_congr (h.written _) rfl

theorem FormTexts.member?_repair_congr (d : FormTexts) (h : AgreeAt key v w) :
    (d.repair v).toValue.member? key = (d.repair w).toValue.member? key := by
  refine Assoc.get?_cons_congr (h.written _) (Assoc.get?_cons_congr (h.written _) ?_)
  refine Assoc.get?_cons_congr (h.written _) (Assoc.get?_cons_congr (h.written _) ?_)
  exact Assoc.get?_cons_congr (h.written _) rfl

theorem Metric.member?_repair_congr (d : Metric) (h : AgreeAt key v w) :
    (d.repair v).toValue.member? key = (d.repair w).toValue.member? key := by
  refine Assoc.get?_cons_congr (h.written _) (Assoc.get?_cons_congr (h.written _) ?_)
  exact Assoc.get?_cons_congr (h.written _) rfl

theorem Stage.member?_repair_congr (d : Stage) (h : AgreeAt key v w) :
    (d.repair v).toValue.member? key = (d.repair w).toValue.member? key := by
  have id (same : "id" = key) :
      Value.string (solidTextOr d.id "id" v) = .string (solidTextOr d.id "id" w) := by
    rw [same, h.solidTextOr]
  have tags (same : "tags" = key) : Value.array ((tagsOr d.tags "tags" v).map .string) =
      .array ((tagsOr d.tags "tags" w).map .string) := by
    rw [same, h.tagsOr]
  refine Assoc.get?_cons_congr id (Assoc.get?_cons_congr (h.written _) ?_)
  refine Assoc.get?_cons_congr (h.written _) (Assoc.get?_cons_congr (h.written _) ?_)
  exact Assoc.get?_cons_congr tags rfl

/-- Whatever stands under other keys, a field of repaired props follows the member of its name. -/
theorem Props.member?_repair_congr (kind : Kind) (h : AgreeAt key v w) :
    (Props.repair kind v).toValue.member? key = (Props.repair kind w).toValue.member? key := by
  cases kind with
  | hero => exact newHero.member?_repair_congr h
  | cta => exact newCta.member?_repair_congr h
  | form => exact newForm.member?_repair_congr h
  | stats =>
    refine Assoc.get?_cons_congr (fun same => ?_) rfl
    rw [same, h.repairList _ _ Metric.repair_congr]
  | workflow =>
    refine Assoc.get?_cons_congr (fun same => ?_) rfl
    rw [same, h.repairList _ _ Stage.repair_congr]

end PageBuilder.Block
