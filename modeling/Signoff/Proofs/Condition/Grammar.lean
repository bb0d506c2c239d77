import Mathlib
import Signoff.Condition.Reader
import Signoff.Proofs.Text.Split

/-!
The grammar of conditions, apart from the reader: which values are nodes at which depth, and what
tree a node means. The reader accepts a value exactly when it is a node at the root, and answers
with that tree.
-/

namespace Signoff.Condition

open Json

/-- Names joined by dots: at least one, none of them empty, and no dot in any of them. -/
structure Dotted (names : List String) (text : String) : Prop where
  some : names ≠ []
  named : ∀ name ∈ names, name ≠ "" ∧ '.' ∉ name.toList
  joined : ".".intercalate names = text

theorem Dotted.segmentsOf {names : List String} {text : String} (h : Dotted names text) :
    FieldPath.segmentsOf text = names := by
  rw [← h.joined]
  exact Text.split_intercalate h.some fun name hname => (h.named name hname).2

/-- The path that joined names make. -/
def Dotted.path {names : List String} {text : String} (h : Dotted names text) : FieldPath where
  text := text
  valid := by
    rw [FieldPath.isPath, h.segmentsOf, List.all_eq_true]
    intro name hname
    simpa [String.isEmpty_iff] using (h.named name hname).1

theorem dotted_segments (p : FieldPath) : Dotted p.segments p.text := by
  refine ⟨?_, ?_, Text.intercalate_split '.' p.text⟩
  · rw [FieldPath.segments, FieldPath.segmentsOf, Text.split, ne_eq, List.map_eq_nil_iff]
    exact Text.splitOn_ne_nil '.' p.text.toList
  · intro name hname
    constructor
    · have hvalid := p.valid
      rw [FieldPath.isPath, List.all_eq_true] at hvalid
      simpa [String.isEmpty_iff] using hvalid name hname
    · obtain ⟨part, hpart, rfl⟩ := List.mem_map.mp hname
      rw [String.toList_ofList]
      exact Text.not_mem_of_mem_splitOn hpart

/-- Which values an operator takes, and the test that they make. Only presence needs none. -/
inductive Takes : Operator → Option Json → Test → Prop
  | absent : Takes .present none (.present true)
  | present (expected : Bool) : Takes .present (some (.bool expected)) (.present expected)
  | eq (v : Json) : Takes .eq (some v) (.eq v)
  | neq (v : Json) : Takes .neq (some v) (.neq v)
  | contains (v : Json) : Takes .contains (some v) (.contains v)
  | lt (b : Bound) : Takes .lt (some b.toJson) (.lt b)
  | lte (b : Bound) : Takes .lte (some b.toJson) (.lte b)
  | gt (b : Bound) : Takes .gt (some b.toJson) (.gt b)
  | gte (b : Bound) : Takes .gte (some b.toJson) (.gte b)
  | among (items : List Json) : Takes .among (some (.arr items)) (.among items)
  | regex (text : String) (program : Pattern.Program) (h : Pattern.compile? text = some program) :
    Takes .regex (some (.str text)) (.regex ⟨text, program, h⟩)

mutual

/-- A value is a node at a depth, and this is the tree that it means: a test of one field, or a
group whose nodes are one level deeper. No node lies deeper than level 32. -/
inductive Node : Nat → Json → Condition → Prop
  | leaf {depth : Nat} {members : Object} {names : List String} {text : String} {op : Operator}
      {test : Test} (hdepth : depth ≤ 32)
      (hkeys : ∀ m ∈ members, m.1 = "field" ∨ m.1 = "op" ∨ m.1 = "value")
      (hfield : Object.get? members "field" = some (.str text)) (hnames : Dotted names text)
      (hop : Object.get? members "op" = some (.str op.name))
      (hvalue : Takes op (Object.get? members "value") test) :
      Node depth (.obj members) (.leaf hnames.path test)
  | all {depth : Nat} {items : List Json} {cs : List Condition} (hdepth : depth ≤ 32)
      (hitems : Nodes (depth + 1) items cs) : Node depth (.obj [("all", .arr items)]) (.all cs)
  | any {depth : Nat} {items : List Json} {cs : List Condition} (hdepth : depth ≤ 32)
      (hitems : Nodes (depth + 1) items cs) : Node depth (.obj [("any", .arr items)]) (.any cs)
  | not {depth : Nat} {v : Json} {c : Condition} (hdepth : depth ≤ 32) (h : Node (depth + 1) v c) :
      Node depth (.obj [("not", v)]) (.not c)

/-- Every item is a node at a depth. -/
inductive Nodes : Nat → List Json → List Condition → Prop
  | nil (depth : Nat) : Nodes depth [] []
  | cons {depth : Nat} {v : Json} {c : Condition} {items : List Json} {cs : List Condition}
      (head : Node depth v c) (tail : Nodes depth items cs) : Nodes depth (v :: items) (c :: cs)

end

/-- The members of a test, as the reader looks at them. -/
def Tests (members : Object) (c : Condition) : Prop :=
  (∀ m ∈ members, m.1 = "field" ∨ m.1 = "op" ∨ m.1 = "value") ∧
    ∃ (field : FieldPath) (op : Operator) (test : Test),
      Object.get? members "field" = some (.str field.text) ∧
      Object.get? members "op" = some (.str op.name) ∧
      Takes op (Object.get? members "value") test ∧ c = .leaf field test

/-- The one member of a group, whose nodes lie at a depth. -/
def Groups (depth : Nat) (name : String) (v : Json) (c : Condition) : Prop :=
  (name = "all" ∧ ∃ items cs, v = .arr items ∧ Nodes depth items cs ∧ c = .all cs) ∨
    (name = "any" ∧ ∃ items cs, v = .arr items ∧ Nodes depth items cs ∧ c = .any cs) ∨
    (name = "not" ∧ ∃ inner, Node depth v inner ∧ c = .not inner)

/-- A node is a test or a group, and not too deep. -/
theorem node_iff {depth : Nat} {v : Json} {c : Condition} :
    Node depth v c ↔ depth ≤ 32 ∧ ∃ members, v = .obj members ∧
      (Tests members c ∨
        ∃ name inner, members = [(name, inner)] ∧ Groups (depth + 1) name inner c) := by
  constructor
  · intro h
    cases h with
    | leaf hdepth hkeys hfield hnames hop hvalue =>
      exact ⟨hdepth, _, rfl, .inl ⟨hkeys, hnames.path, _, _, hfield, hop, hvalue, rfl⟩⟩
    | all hdepth hitems =>
      exact ⟨hdepth, _, rfl, .inr ⟨_, _, rfl, .inl ⟨rfl, _, _, rfl, hitems, rfl⟩⟩⟩
    | any hdepth hitems =>
      exact ⟨hdepth, _, rfl, .inr ⟨_, _, rfl, .inr (.inl ⟨rfl, _, _, rfl, hitems, rfl⟩)⟩⟩
    | not hdepth hinner =>
      exact ⟨hdepth, _, rfl, .inr ⟨_, _, rfl, .inr (.inr ⟨rfl, _, hinner, rfl⟩)⟩⟩
  · rintro ⟨hdepth, members, rfl, h⟩
    rcases h with ⟨hkeys, field, op, test, hfield, hop, hvalue, rfl⟩ | ⟨name, inner, rfl, h⟩
    · exact .leaf hdepth hkeys hfield (dotted_segments field) hop hvalue
    · rcases h with ⟨rfl, items, cs, rfl, hitems, rfl⟩ | ⟨rfl, items, cs, rfl, hitems, rfl⟩ |
        ⟨rfl, c, hinner, rfl⟩
      · exact .all hdepth hitems
      · exact .any hdepth hitems
      · exact .not hdepth hinner

theorem readBound_ok {op : Operator} {v : Json} {b : Bound} :
    readBound op v = .ok b ↔ v = b.toJson := by
  cases v <;> cases b <;> simp [readBound, Bound.toJson, eq_comm]

theorem readTest_ok {op : Operator} {value : Option Json} {test : Test} :
    readTest op value = .ok test ↔ Takes op value test := by
  have hbound {op : Operator} {v : Json} {f : Bound → Test}
      (h : (readBound op v).map f = .ok test) : ∃ b, v = b.toJson ∧ test = f b := by
    cases hb : readBound op v with
    | error e => rw [hb] at h; cases h
    | ok b =>
      rw [hb] at h
      cases h
      exact ⟨b, readBound_ok.mp hb, rfl⟩
  constructor
  · intro h
    unfold readTest at h
    -- the cases stand in the order in which the reader tries operator and value
    split at h
    · cases h; exact .absent
    · cases h; exact .present _
    · cases h
    · cases h
    · cases h; exact .eq _
    · cases h; exact .neq _
    · cases h; exact .contains _
    · obtain ⟨b, rfl, rfl⟩ := hbound h; exact .lt b
    · obtain ⟨b, rfl, rfl⟩ := hbound h; exact .lte b
    · obtain ⟨b, rfl, rfl⟩ := hbound h; exact .gt b
    · obtain ⟨b, rfl, rfl⟩ := hbound h; exact .gte b
    · cases h; exact .among _
    · cases h
    · next s =>
      split at h
      · next p hp =>
        cases h
        obtain rfl := Pattern.text_of_ofText? hp
        exact .regex p.text p.program p.compiled
      · cases h
    · cases h
  · intro h
    cases h with
    | regex text program h =>
      have hp : Pattern.ofText? text = some ⟨text, program, h⟩ :=
        Pattern.ofText?_text ⟨text, program, h⟩
      simp only [readTest, hp]
    | lt b => simp only [readTest, readBound_ok.mpr rfl]; rfl
    | lte b => simp only [readTest, readBound_ok.mpr rfl]; rfl
    | gt b => simp only [readTest, readBound_ok.mpr rfl]; rfl
    | gte b => simp only [readTest, readBound_ok.mpr rfl]; rfl
    | _ => rfl

theorem readField_ok {members : Object} {p : FieldPath} :
    readField members = .ok p ↔ Object.get? members "field" = some (.str p.text) := by
  unfold readField
  constructor
  · intro h
    split at h
    · cases h
    · next s hs =>
      split at h
      · next q hq =>
        cases h
        rw [hs, FieldPath.text_of_ofText? hq]
      · cases h
    · cases h
  · intro h
    rw [h]
    simp only [FieldPath.ofText?_text]

theorem readOperator_ok {members : Object} {op : Operator} :
    readOperator members = .ok op ↔ Object.get? members "op" = some (.str op.name) := by
  unfold readOperator
  constructor
  · intro h
    split at h
    · cases h
    · next s hs =>
      split at h
      · next q hq =>
        cases h
        rw [hs, Operator.name_of_ofName? hq]
      · cases h
    · cases h
  · intro h
    rw [h]
    simp only [Operator.ofName?_name]

theorem allowed_iff {members : Object} :
    (members.find? fun m => !leafKeys.contains m.1) = none ↔
      ∀ m ∈ members, m.1 = "field" ∨ m.1 = "op" ∨ m.1 = "value" := by
  rw [List.find?_eq_none]
  refine forall₂_congr fun m _ => ?_
  simp only [leafKeys, List.contains_cons, List.contains_nil, Bool.or_false, Bool.not_eq_true',
    Bool.not_eq_false, Bool.or_eq_true, beq_iff_eq]

theorem readLeaf_ok {members : Object} {c : Condition} :
    readLeaf members = .ok c ↔ Tests members c := by
  unfold Tests
  unfold readLeaf
  rw [← allowed_iff]
  -- a key that no test has is found before anything else is read
  split
  · next name v hfind =>
    rw [hfind]
    constructor
    · intro h
      cases h
    · rintro ⟨h, -⟩
      cases h
  · next hfind =>
    rw [hfind]
    constructor
    · intro h
      cases hfield : readField members with
      | error e => rw [hfield] at h; cases h
      | ok field =>
        cases hop : readOperator members with
        | error e => rw [hfield, hop] at h; cases h
        | ok op =>
          cases htest : readTest op (Object.get? members "value") with
          | error e =>
            rw [hfield, hop] at h
            simp [bind, Except.bind, htest] at h
          | ok test =>
            rw [hfield, hop] at h
            simp only [bind, Except.bind, htest] at h
            cases h
            exact ⟨rfl, field, op, test, readField_ok.mp hfield, readOperator_ok.mp hop,
              readTest_ok.mp htest, rfl⟩
    · rintro ⟨-, field, op, test, hfield, hop, htest, rfl⟩
      rw [readField_ok.mpr hfield, readOperator_ok.mpr hop]
      simp only [bind, Except.bind, readTest_ok.mpr htest]
      rfl

/-- Items are read one by one, each at the same depth. -/
theorem readItems_ok {name : String} {read : Json → Except Error Condition} {depth : Nat}
    (hread : ∀ v c, read v = .ok c ↔ Node depth v c) {index : Nat} {items : List Json}
    {cs : List Condition} :
    readItems name read index items = .ok cs ↔ Nodes depth items cs := by
  -- the index is in errors only
  induction items generalizing index cs with
  | nil =>
    rw [readItems]
    constructor
    · intro h
      cases h
      exact .nil depth
    · intro h
      cases h
      rfl
  | cons v items ih =>
    rw [readItems]
    constructor
    · intro h
      split at h
      · cases h
      · next c hc =>
        cases hrest : readItems name read (index + 1) items with
        | error e => rw [hrest] at h; cases h
        | ok rest =>
          rw [hrest] at h
          cases h
          exact .cons ((hread v c).mp hc) (ih.mp hrest)
    · intro h
      cases h with
      | cons head tail =>
        rw [(hread v _).mpr head]
        simp only [ih.mpr tail]
        rfl

theorem readList_ok {name : String} {read : Json → Except Error Condition} {depth : Nat}
    (hread : ∀ v c, read v = .ok c ↔ Node depth v c) {v : Json} {cs : List Condition} :
    readList name read v = .ok cs ↔ ∃ items, v = .arr items ∧ Nodes depth items cs := by
  cases v with
  | arr items => simp [readList, readItems_ok hread]
  | _ => simp [readList]

theorem readGroup_ok {read : Json → Except Error Condition} {depth : Nat}
    (hread : ∀ v c, read v = .ok c ↔ Node depth v c) {name : String} {v : Json} {c : Condition} :
    readGroup read name v = .ok c ↔ Groups depth name v c := by
  -- both names of lists are read alike, and differ in the node that is made of the list
  have hlist (f : List Condition → Condition) : (readList name read v).map f = .ok c ↔
      ∃ items cs, v = .arr items ∧ Nodes depth items cs ∧ c = f cs := by
    constructor
    · intro h
      cases hl : readList name read v with
      | error e => rw [hl] at h; cases h
      | ok cs =>
        rw [hl] at h
        cases h
        obtain ⟨items, hv, hitems⟩ := (readList_ok hread).mp hl
        exact ⟨items, cs, hv, hitems, rfl⟩
    · rintro ⟨items, cs, hv, hitems, rfl⟩
      rw [(readList_ok hread).mpr ⟨items, hv, hitems⟩]
      rfl
  unfold readGroup Groups
  split_ifs with hall hany hnot
  · rw [hlist]
    simp [hall]
  · rw [hlist]
    simp [hany]
  · subst hnot
    simp only [String.reduceEq, false_and, true_and, false_or]
    constructor
    · intro h
      split at h
      · cases h
      · split at h
        · next inner hinner =>
          cases h
          exact ⟨inner, (hread _ _).mp hinner, rfl⟩
        · cases h
    · rintro ⟨inner, hinner, rfl⟩
      split
      · -- a list is no node
        cases hinner
      · rw [(hread _ _).mpr hinner]
  · simp [hall, hany, hnot]

/-- What an object is read as: a test when it has a member of one, else a group if it has one
member. -/
theorem readWithin_obj (levels : Nat) (members : Object) (c : Condition) :
    readWithin (levels + 1) (.obj members) = .ok c ↔
      if Object.contains members "field" || Object.contains members "op" then
        readLeaf members = .ok c
      else ∃ name v, members = [(name, v)] ∧ readGroup (readWithin levels) name v = .ok c := by
  -- no member, one member, more than one
  rcases members with _ | ⟨⟨name, v⟩, _ | ⟨second, rest⟩⟩ <;> simp only [readWithin] <;> split <;>
    simp

/-- A group is no test: its one member is not named like one. -/
theorem Groups.not_contains {depth : Nat} {name : String} {v : Json} {c : Condition}
    (h : Groups depth name v c) :
    ¬(Object.contains [(name, v)] "field" || Object.contains [(name, v)] "op") := by
  rcases h with ⟨rfl, -⟩ | ⟨rfl, -⟩ | ⟨rfl, -⟩ <;> simp [Object.contains, Object.get?]

theorem Tests.contains {members : Object} {c : Condition} (h : Tests members c) :
    Object.contains members "field" || Object.contains members "op" := by
  obtain ⟨-, field, op, test, hfield, -⟩ := h
  simp [Object.contains, hfield]

/-- With as many levels left as there are down to the deepest, the reader takes the nodes at a
depth. -/
theorem readWithin_ok {levels depth : Nat} (hlevels : levels + depth = 33) {v : Json}
    {c : Condition} : readWithin levels v = .ok c ↔ Node depth v c := by
  -- the reader recurses on the levels that are left, so the depth has to be free
  induction levels generalizing depth v c with
  | zero =>
    rw [readWithin, node_iff]
    constructor
    · intro h
      cases h
    · rintro ⟨hdepth, -⟩
      omega
  | succ levels ih =>
    have hread : ∀ v c, readWithin levels v = .ok c ↔ Node (depth + 1) v c :=
      fun v c => ih (by omega)
    have hdepth : depth ≤ 32 := by omega
    rw [node_iff]
    cases v with
    | obj members =>
      rw [readWithin_obj]
      simp only [hdepth, true_and, Json.obj.injEq, exists_eq_left', readLeaf_ok,
        readGroup_ok hread]
      split_ifs with hkey
      · constructor
        · exact .inl
        · rintro (htests | ⟨name, inner, rfl, hgroup⟩)
          · exact htests
          · exact absurd hkey hgroup.not_contains
      · constructor
        · exact .inr
        · rintro (htests | hgroup)
          · exact absurd htests.contains hkey
          · exact hgroup
    | _ => simp [readWithin]

/-- The reader accepts the nodes at the root and no other value, and answers with the tree that the
node means. -/
theorem ofJson_ok_iff_node (v : Json) (c : Condition) : ofJson v = .ok c ↔ Node 0 v c :=
  readWithin_ok rfl

/-- Presence asked for without a value means that the field is there. -/
example : ∃ p : FieldPath, p.text = "a.b" ∧
    ofJson (.obj [("field", .str "a.b"), ("op", .str "exists")]) = .ok (.leaf p (.present true)) :=
  ⟨⟨"a.b", by decide⟩, rfl, rfl⟩

end Signoff.Condition
