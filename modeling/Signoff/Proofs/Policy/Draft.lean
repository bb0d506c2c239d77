import Mathlib
import Signoff.Policy.Draft
import Signoff.Proofs.Condition.RoundTrip
import Signoff.Proofs.Text.Trim

/-!
Drafts that pass. What comes out of the check has no gaps left to fill and no ends left to cut, so
that it passes again and comes out as it is; so do the bodies that are made of it by switching it on
or off.
-/

namespace Signoff

namespace Double

/-- A number without the sign of a zero, as it comes out of a cell. -/
def unsigned (x : Double) : Double := if x.magnitude = 0 then .zero else x

theorem toInt_unsigned (x : Double) : x.unsigned.toInt = x.toInt := by
  unfold unsigned
  split
  · next h => simp [toInt, h, zero]
  · rfl

theorem unsigned_unsigned (x : Double) : x.unsigned.unsigned = x.unsigned := by
  unfold unsigned
  split_ifs <;> rfl

theorem inUnit_unsigned (x : Double) : x.unsigned.inUnit = x.inUnit := by
  simp only [inUnit, le, toInt_unsigned]

end Double

namespace Policy

open Json

namespace Draft

/-- A name that was filled in is not filled in again. -/
theorem nameOr_nameOr {actionType : String} (name : String)
    (h : Text.isBlankText actionType = false) :
    nameOr (nameOr name actionType) (Text.trim actionType) = nameOr name actionType := by
  cases hname : Text.isBlankText name with
  | true =>
    have hor : nameOr name actionType = Text.trim actionType := if_pos hname
    have hblank : Text.isBlankText (Text.trim actionType) = false := by
      rw [Text.isBlankText_trim, h]
    rw [hor, nameOr, hblank, if_neg Bool.false_ne_true, Text.trim_trim]
  | false =>
    have hor : nameOr name actionType = Text.trim name := by
      rw [nameOr, hname, if_neg Bool.false_ne_true]
    have hblank : Text.isBlankText (Text.trim name) = false := by
      rw [Text.isBlankText_trim, hname]
    rw [hor, nameOr, hblank, if_neg Bool.false_ne_true, Text.trim_trim]

theorem readParams_ok {v params : Json} (h : readParams v = .ok params) :
    (v = .null ∧ params = .obj []) ∨ ∃ members, v = .obj members ∧ params = .obj members := by
  cases v with
  | null => exact .inl ⟨rfl, (Except.ok.inj h).symm⟩
  | obj members => exact .inr ⟨members, rfl, (Except.ok.inj h).symm⟩
  | _ => cases h

theorem readParams_readParams {v params : Json} (h : readParams v = .ok params) :
    readParams params = .ok params := by
  obtain ⟨-, rfl⟩ | ⟨members, -, rfl⟩ := readParams_ok h <;> rfl

/-- What it takes for a draft to pass, and what it becomes. -/
theorem validate_ok {d : Draft} {b : Body} :
    d.validate = .ok b ↔
      ∃ condition params, Condition.ofJson d.condition = .ok condition ∧
        Text.isBlankText d.actionType = false ∧ d.confidence.inUnit = true ∧
        readParams d.params = .ok params ∧
        b = ⟨nameOr d.name d.actionType, d.priority, d.enabled, condition, Text.trim d.actionType,
          params, d.confidence, d.rationale⟩ := by
  unfold validate
  cases hcondition : Condition.ofJson d.condition with
  | error e => simp [Except.mapError, bind, Except.bind]
  | ok condition =>
    cases hblank : Text.isBlankText d.actionType with
    | true => simp [Except.mapError, bind, Except.bind, throw, throwThe, MonadExceptOf.throw]
    | false =>
      cases hunit : d.confidence.inUnit with
      | false => simp [Except.mapError, bind, Except.bind, throw, throwThe, MonadExceptOf.throw]
      | true =>
        cases hparams : readParams d.params with
        | error e => simp [Except.mapError, bind, Except.bind]
        | ok params =>
          simp [Except.mapError, bind, Except.bind, pure, Except.pure, eq_comm (a := b)]

end Draft

/-- A body that passes as it is. -/
def Body.Sound (b : Body) : Prop := (Draft.ofBody b).validate = .ok b

theorem Body.sound_iff {b : Body} :
    b.Sound ↔ Condition.ofJson b.condition.toJson = .ok b.condition ∧
      Text.isBlankText b.actionType = false ∧ Text.trim b.actionType = b.actionType ∧
      Draft.nameOr b.name b.actionType = b.name ∧ b.confidence.inUnit = true ∧
      Draft.readParams b.params = .ok b.params := by
  rw [Body.Sound, Draft.validate_ok]
  constructor
  · rintro ⟨condition, params, hcondition, hblank, hunit, hparams, hb⟩
    have hname := congrArg Body.name hb
    have haction := congrArg Body.actionType hb
    obtain rfl : b.condition = condition := congrArg Body.condition hb
    obtain rfl : b.params = params := congrArg Body.params hb
    exact ⟨hcondition, hblank, haction.symm, hname.symm, hunit, hparams⟩
  · rintro ⟨hcondition, hblank, haction, hname, hunit, hparams⟩
    refine ⟨b.condition, b.params, hcondition, hblank, hunit, hparams, ?_⟩
    simp only [Draft.ofBody, haction, hname]

/-- What a draft becomes passes as it is. -/
theorem Draft.sound_of_validate {d : Draft} {b : Body} (h : d.validate = .ok b) : b.Sound := by
  obtain ⟨condition, params, hcondition, hblank, hunit, hparams, rfl⟩ := validate_ok.mp h
  have hnode : Condition.Node 0 d.condition condition :=
    (Condition.readWithin_ok rfl).mp hcondition
  refine Body.sound_iff.mpr ⟨(Condition.readWithin_ok rfl).mpr hnode.written, ?_,
    Text.trim_trim _, nameOr_nameOr _ hblank, hunit, readParams_readParams hparams⟩
  rw [Text.isBlankText_trim]
  exact hblank

/-- A body with its switch on or off. -/
def Body.switched (b : Body) (enabled : Bool) : Body := { b with enabled := enabled }

/-- A body as it comes out of its row. -/
def Body.unsigned (b : Body) : Body := { b with confidence := b.confidence.unsigned }

theorem Body.Sound.switched {b : Body} (h : b.Sound) (enabled : Bool) :
    (b.switched enabled).Sound := by
  have hparts := Body.sound_iff.mp h
  exact Body.sound_iff.mpr hparts

theorem Body.Sound.unsigned {b : Body} (h : b.Sound) : b.unsigned.Sound := by
  obtain ⟨hcondition, hblank, haction, hname, hunit, hparams⟩ := Body.sound_iff.mp h
  refine Body.sound_iff.mpr ⟨hcondition, hblank, haction, hname, ?_, hparams⟩
  rw [← hunit]
  exact Double.inUnit_unsigned b.confidence

/-- A body whose condition and parameters are read back from what is written for them. -/
structure Body.Legible (b : Body) : Prop where
  condition : Fits (maxLevels - 1) b.condition.toJson
  params : Fits (maxLevels - 1) b.params

/-- A draft that does not nest deeper than texts may. -/
structure Draft.Legible (d : Draft) : Prop where
  condition : Fits (maxLevels - 1) d.condition
  params : Fits (maxLevels - 1) d.params

/-- What is written for the condition of a draft nests no deeper than it does in the draft. -/
theorem Draft.fits_condition {d : Draft} {b : Body} {levels : Nat} (hb : d.validate = .ok b)
    (h : Fits levels d.condition) : Fits levels b.condition.toJson := by
  obtain ⟨condition, params, hcondition, -, -, -, rfl⟩ := validate_ok.mp hb
  have hnode : Condition.Node 0 d.condition condition :=
    (Condition.readWithin_ok rfl).mp hcondition
  dsimp only
  -- what is written for a condition is what was read of it, spelled out
  rw [hnode.toJson_eq h.ordered]
  exact Condition.fits_spelledOut h

theorem Draft.fits_params {d : Draft} {b : Body} {levels : Nat} (hb : d.validate = .ok b)
    (h : Fits (levels + 1) d.params) : Fits (levels + 1) b.params := by
  obtain ⟨condition, params, -, -, -, hparams, rfl⟩ := validate_ok.mp hb
  obtain ⟨-, rfl⟩ | ⟨members, hv, rfl⟩ := readParams_ok hparams
  · exact .obj List.Pairwise.nil (by simp)
  · rw [← hv]
    exact h

theorem Draft.Legible.body {d : Draft} {b : Body} (h : d.Legible) (hb : d.validate = .ok b) :
    b.Legible where
  condition := fits_condition hb h.condition
  params := (fits_params hb h.params : Fits (126 + 1) b.params)

end Policy

end Signoff
