import Mathlib
import Signoff.Proofs.Condition.Grammar
import Signoff.Proofs.Json.Fits

/-!
Where a value that is no condition is wrong. The path of an error leads down the groups to one node,
past items that are all accepted, and may end at a member of that node; read alone at its depth, the
node has the same error at the rest of the path. So the error is the first that there is, and every
node that is found in this way decides it.
-/

namespace Signoff.Condition

open Json

/-- Reads a value as a node at a depth; the root is at depth 0. -/
def readAt (depth : Nat) (v : Json) : Except Error Condition := readWithin (33 - depth) v

/-- One step from a group to a node of it, which lies at a depth. The items before it are nodes. -/
inductive Descends (depth : Nat) : Json → Step → Json → Prop
  | item {name : String} {items : List Json} {i : Nat} {v : Json}
      (hname : name = "all" ∨ name = "any") (hitem : items[i]? = some v)
      (hbefore : ∀ u ∈ items.take i, ∃ c, Node depth u c) :
      Descends depth (.obj [(name, .arr items)]) (.item name i) v
  | not {v : Json} (hv : ∀ items, v ≠ .arr items) :
      Descends depth (.obj [("not", v)]) (.member "not") v

/-- Steps from a value at a depth down to a node. -/
inductive Leads : Nat → Json → List Step → Json → Prop
  | here (depth : Nat) (v : Json) : Leads depth v [] v
  | down {depth : Nat} {v inner node : Json} {step : Step} {steps : List Step}
      (h : Descends (depth + 1) v step inner) (rest : Leads (depth + 1) inner steps node) :
      Leads depth v (step :: steps) node

/-- The end of a path at a node: the node itself, a member of a test, or the member of a group. -/
inductive Part : Json → List Step → Prop
  | node (v : Json) : Part v []
  | test {members : Object} {name : String} (hname : name = "field" ∨ name = "op" ∨ name = "value")
      (htest : Object.contains members "field" || Object.contains members "op") :
      Part (.obj members) [.member name]
  | group {name : String} (v : Json) (hname : name = "all" ∨ name = "any" ∨ name = "not") :
      Part (.obj [(name, v)]) [.member name]

/-- Where the error of a value at a depth shows: steps lead to a node, which has the error alone, at
what is left of the path. The error is that of a node too deep where no node may be any more. -/
structure Located (depth : Nat) (v : Json) (e : Error) (steps : List Step) (node : Json)
    (rest : List Step) : Prop where
  leads : Leads depth v steps node
  part : Part node rest
  path : e.path = steps ++ rest
  alone : readAt (depth + steps.length) node = .error ⟨rest, e.reason⟩
  deep : e.reason = .tooDeep ↔ depth + steps.length = 33

/-- The error of a node at the node itself: not in a node below, and not that it lies too deep. -/
structure Own (v : Json) (e : Error) : Prop where
  part : Part v e.path
  reason : e.reason ≠ .tooDeep

variable {levels depth : Nat} {v u : Json} {e e' : Error} {name : String} {members : Object}

/-- What is accepted at a depth is a node there, so steps lead past items that are accepted. -/
theorem readAt_ok {c : Condition} : readAt depth v = .ok c ↔ Node depth v c := by
  by_cases hdepth : depth ≤ 33
  · exact readWithin_ok (Nat.sub_add_cancel hdepth)
  · have hlevels : 33 - depth = 0 := by omega
    rw [readAt, hlevels, readWithin, node_iff]
    constructor
    · intro h
      cases h
    · rintro ⟨hle, -⟩
      omega

/-! ### The errors of a test -/

theorem readTest_ne_tooDeep (op : Operator) (value : Option Json) :
    readTest op value ≠ .error .tooDeep := by
  have hbound (op : Operator) (v : Json) (f : Bound → Test) :
      (readBound op v).map f ≠ .error .tooDeep := by
    cases v <;> simp [readBound, Except.map]
  intro h
  unfold readTest at h
  split at h
  all_goals first
    | cases h
    | exact hbound _ _ _ h
    | split at h <;> cases h

theorem readField_error (h : readField members = .error e) :
    e.path = [.member "field"] ∧ e.reason ≠ .tooDeep := by
  unfold readField at h
  split at h
  · cases h
    simp [atMember]
  · split at h <;> cases h
    simp [atMember]
  · cases h
    simp [atMember]

theorem readOperator_error (h : readOperator members = .error e) :
    e.path = [.member "op"] ∧ e.reason ≠ .tooDeep := by
  unfold readOperator at h
  split at h
  · cases h
    simp [atMember]
  · split at h <;> cases h
    simp [atMember]
  · cases h
    simp [atMember]

/-- A test has no nodes below, so all its errors are its own. -/
theorem readLeaf_error (htest : Object.contains members "field" || Object.contains members "op")
    (h : readLeaf members = .error e) : Own (.obj members) e := by
  unfold readLeaf at h
  -- the first fault is told, in this order: an unknown name, the field, the operator, the value
  split at h
  · cases h
    exact ⟨.node _, by simp⟩
  · cases hfield : readField members with
    | error e' =>
      obtain ⟨hpath, hreason⟩ := readField_error hfield
      rw [hfield] at h
      cases h
      exact ⟨hpath ▸ .test (.inl rfl) htest, hreason⟩
    | ok field =>
      cases hop : readOperator members with
      | error e' =>
        obtain ⟨hpath, hreason⟩ := readOperator_error hop
        rw [hfield, hop] at h
        cases h
        exact ⟨hpath ▸ .test (.inr (.inl rfl)) htest, hreason⟩
      | ok op =>
        rw [hfield, hop] at h
        simp only [bind, Except.bind] at h
        split at h
        · cases h
        · next reason hvalue =>
          cases h
          refine ⟨.test (.inr (.inr rfl)) htest, ?_⟩
          rintro rfl
          exact readTest_ne_tooDeep _ _ hvalue

/-! ### The errors of a group -/

/-- The first item that is refused decides. -/
theorem readItems_error {read : Json → Except Error Condition} {items : List Json} {index : Nat} :
    readItems name read index items = .error e ↔ ∃ i v e', items[i]? = some v ∧
      (∀ u ∈ items.take i, ∃ c, read u = .ok c) ∧ read v = .error e' ∧
      e = e'.under (.item name (index + i)) := by
  induction items generalizing index with
  | nil => simp [readItems]
  | cons v items ih =>
    rw [readItems]
    cases hv : read v with
    | error e' =>
      constructor
      · intro h
        cases h
        exact ⟨0, v, e', rfl, by simp, hv, rfl⟩
      · rintro ⟨i, w, e'', hw, hbefore, hread, rfl⟩
        cases i with
        | zero =>
          cases hw
          rw [hv] at hread
          cases hread
          rfl
        | succ i =>
          -- an item after it is not reached
          obtain ⟨c, hc⟩ := hbefore v (by simp)
          rw [hv] at hc
          cases hc
    | ok c =>
      rw [map_error, ih]
      constructor
      · rintro ⟨i, w, e', hw, hbefore, hread, rfl⟩
        refine ⟨i + 1, w, e', hw, ?_, hread, by rw [Nat.add_right_comm, Nat.add_assoc]⟩
        rw [List.take_succ_cons, List.forall_mem_cons]
        exact ⟨⟨c, hv⟩, hbefore⟩
      · rintro ⟨i, w, e', hw, hbefore, hread, rfl⟩
        cases i with
        | zero =>
          cases hw
          rw [hv] at hread
          cases hread
        | succ i =>
          rw [List.take_succ_cons, List.forall_mem_cons] at hbefore
          exact ⟨i, w, e', hw, hbefore.2, hread, by rw [Nat.add_right_comm, Nat.add_assoc]⟩

theorem readGroup_error {read : Json → Except Error Condition}
    (hread : ∀ v c, read v = .ok c ↔ Node depth v c) (h : readGroup read name v = .error e) :
    Own (.obj [(name, v)]) e ∨ ∃ step inner e', Descends depth (.obj [(name, v)]) step inner ∧
      read inner = .error e' ∧ e = e'.under step := by
  -- either it is no list, or the fault lies in the first item that is no node
  have hlist (hname : name = "all" ∨ name = "any") (f : List Condition → Condition)
      (h : (readList name read v).map f = .error e) :
      Own (.obj [(name, v)]) e ∨ ∃ step inner e', Descends depth (.obj [(name, v)]) step inner ∧
        read inner = .error e' ∧ e = e'.under step := by
    rw [map_error] at h
    cases v with
    | arr items =>
      obtain ⟨i, inner, e', hitem, hbefore, hinner, rfl⟩ := readItems_error.mp h
      simp only [hread] at hbefore
      rw [Nat.zero_add]
      exact .inr ⟨_, inner, e', .item hname hitem hbefore, hinner, rfl⟩
    | _ =>
      cases h
      exact .inl ⟨.group _ (hname.imp_right .inl), by simp [atMember]⟩
  unfold readGroup at h
  split_ifs at h with hall hany hnot
  · exact hlist (.inl hall) _ h
  · exact hlist (.inr hany) _ h
  · subst hnot
    split at h
    · cases h
      exact .inl ⟨.group _ (by simp), by simp [atMember]⟩
    · next hv =>
      split at h
      · cases h
      · next e' he' =>
        cases h
        exact .inr ⟨_, v, e', .not (fun items heq => hv items heq), he', rfl⟩
  · cases h
    exact .inl ⟨.node _, by simp⟩

/-- An error of a value that may have nodes is its own, or that of a node one level deeper. -/
theorem readWithin_error (hlevels : levels + (depth + 1) = 33)
    (h : readWithin (levels + 1) v = .error e) :
    Own v e ∨ ∃ step inner e', Descends (depth + 1) v step inner ∧
      readWithin levels inner = .error e' ∧ e = e'.under step := by
  cases v with
  | obj members =>
    -- no member, one member, more than one
    rcases members with _ | ⟨⟨name, v⟩, _ | ⟨second, rest⟩⟩ <;> simp only [readWithin] at h <;>
      split at h
    · next htest => exact .inl (readLeaf_error htest h)
    · cases h
      exact .inl ⟨.node _, by simp⟩
    · next htest => exact .inl (readLeaf_error htest h)
    · exact readGroup_error (fun v c => readWithin_ok hlevels) h
    · next htest => exact .inl (readLeaf_error htest h)
    · cases h
      exact .inl ⟨.node _, by simp⟩
  | _ =>
    cases h
    exact .inl ⟨.node _, by simp⟩

/-- The error of a node is that of the value one level up, when all items before it are nodes. -/
theorem Descends.error {step : Step} (hlevels : levels + depth = 33) (h : Descends depth v step u)
    (hu : readWithin levels u = .error e) :
    readWithin (levels + 1) v = .error (e.under step) := by
  cases h with
  | @item name items i _ hname hitem hbefore =>
    have hitems : readItems name (readWithin levels) 0 items = .error (e.under (.item name i)) := by
      rw [readItems_error]
      refine ⟨i, u, e, hitem, ?_, hu, by rw [Nat.zero_add]⟩
      intro w hw
      obtain ⟨c, hc⟩ := hbefore w hw
      exact ⟨c, (readWithin_ok hlevels).mpr hc⟩
    rcases hname with rfl | rfl
    · simp [readWithin, Object.contains, Object.get?, readGroup, readList, hitems, Except.map]
    · simp [readWithin, Object.contains, Object.get?, readGroup, readList, hitems, Except.map]
  | not hv =>
    have hgroup : readGroup (readWithin levels) "not" u = .error (e.under (.member "not")) := by
      cases u with
      | arr items => exact absurd rfl (hv items)
      | _ => simp [readGroup, hu]
    simp [readWithin, Object.contains, Object.get?, hgroup]

/-! ### The node -/

theorem readAt_eq (hlevels : levels + depth = 33) (v : Json) : readAt depth v = readWithin levels v := by
  rw [readAt, ← hlevels, Nat.add_sub_cancel]

theorem exists_located (hlevels : levels + depth = 33) (h : readWithin levels v = .error e) :
    ∃ steps node rest, Located depth v e steps node rest := by
  -- the reader recurses on the levels that are left, so the depth has to be free
  induction levels generalizing depth v e with
  | zero =>
    rw [readWithin] at h
    cases h
    rw [Nat.zero_add] at hlevels
    refine ⟨[], v, [], .here depth v, .node v, rfl, ?_, ?_⟩
    · rw [hlevels]
      rfl
    · simp [hlevels]
  | succ levels ih =>
    have hinside : levels + (depth + 1) = 33 := by omega
    rcases readWithin_error hinside h with hown | ⟨step, inner, e', hdown, hinner, rfl⟩
    · refine ⟨[], v, e.path, .here depth v, hown.part, rfl, ?_, ?_⟩
      · exact (readAt_eq hlevels v).trans h
      · have hdepth : depth ≠ 33 := by omega
        simp [hown.reason, hdepth]
    · obtain ⟨steps, node, rest, hlocated⟩ := ih hinside hinner
      have hlength : depth + (step :: steps).length = depth + 1 + steps.length := by
        rw [List.length_cons, Nat.add_right_comm, Nat.add_assoc]
      refine ⟨step :: steps, node, rest, .down hdown hlocated.leads, hlocated.part, ?_, ?_, ?_⟩
      · rw [Error.under, hlocated.path, List.cons_append]
      · rw [hlength]
        exact hlocated.alone
      · rw [hlength]
        exact hlocated.deep

/-- The error of a node to which steps lead is that of the value. -/
theorem Leads.error {steps rest : List Step} {node : Json} {reason : Reason}
    (h : Leads depth v steps node) (hdepth : depth + steps.length ≤ 33)
    (hnode : readAt (depth + steps.length) node = .error ⟨rest, reason⟩) :
    readAt depth v = .error ⟨steps ++ rest, reason⟩ := by
  induction h with
  | here depth v => exact hnode
  | @down depth v inner node step steps hdown _ ih =>
    have hlength : depth + (step :: steps).length = depth + 1 + steps.length := by
      rw [List.length_cons, Nat.add_right_comm, Nat.add_assoc]
    rw [hlength] at hdepth hnode
    have hinner := ih hdepth hnode
    have hlevels : 32 - depth + (depth + 1) = 33 := by omega
    have hlevels' : 32 - depth + 1 + depth = 33 := by omega
    rw [readAt_eq hlevels] at hinner
    rw [readAt_eq hlevels']
    exact hdown.error hlevels hinner

theorem pathText_eq (path : List Step) : pathText path = "$" ++ String.join (path.map Step.text) := by
  have hfold (path : List Step) (s : String) : path.foldl (fun s step => s ++ step.text) s =
      s ++ String.join (path.map Step.text) := by
    induction path generalizing s with
    | nil => simp
    | cons step path ih => rw [List.foldl_cons, ih, List.map_cons, String.join_cons, String.append_assoc]
  exact hfold path "$"

/-- A value is refused with an error exactly when steps lead from the root down to a node that is
refused alone with it. The path of the error spells these steps, and after them at most a member of
the node, which is where the error of the node alone lies. The error is that a node lies too deep
exactly when the node lies 33 levels below the root. -/
theorem ofJson_error_iff_located (v : Json) (e : Error) :
    ofJson v = .error e ↔ ∃ steps node rest, Located 0 v e steps node rest ∧
      pathText e.path =
        "$" ++ String.join (steps.map Step.text) ++ String.join (rest.map Step.text) := by
  constructor
  · intro h
    have hlevels : 33 + 0 = 33 := rfl
    obtain ⟨steps, node, rest, hlocated⟩ := exists_located hlevels h
    refine ⟨steps, node, rest, hlocated, ?_⟩
    rw [hlocated.path, pathText_eq, List.map_append, String.join_append, String.append_assoc]
  · rintro ⟨steps, node, rest, hlocated, -⟩
    have hdepth : 0 + steps.length ≤ 33 := by
      by_contra hdeep
      -- nothing is read so far down, and the error says so
      have hlevels : 33 - (0 + steps.length) = 0 := by omega
      have halone := hlocated.alone
      rw [readAt, hlevels, readWithin, Except.error.injEq, Error.mk.injEq] at halone
      have hlength := hlocated.deep.mp halone.2.symm
      omega
    have herror := hlocated.leads.error hdepth hlocated.alone
    rw [← hlocated.path] at herror
    exact herror

/-- The second of two nodes is wrong, in the test that it denies. -/
example : ofJson (.obj [("all", .arr [.obj [("any", .arr [])],
    .obj [("not", .obj [("field", .str "a"), ("op", .str "is")])]])]) =
    .error ⟨[.item "all" 1, .member "not", .member "op"], .unknownOperator "is"⟩ :=
  rfl

end Signoff.Condition
