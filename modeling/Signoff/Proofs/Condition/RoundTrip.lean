import Mathlib
import Signoff.Condition.Evaluation
import Signoff.Proofs.Condition.Grammar
import Signoff.Proofs.Json.RoundTrip

/-!
Writing a condition that was read. The tests come out with every value spelled out and all else as
it went in, and what comes out is read as the same condition.
-/

namespace Signoff.Condition

open Json

/-- The members of a test with its value spelled out: presence asked for without a value means that
the field is there. -/
def spelledOutTest (members : Object) : Object :=
  match Object.get? members "value", Object.get? members "op" with
  | none, some (.str "exists") => Object.insert members "value" (.bool true)
  | _, _ => members

mutual

/-- A value with its tests spelled out. Whatever a test compares with stays as it is, also where it
looks like a test. -/
def spelledOut : Json → Json
  | .obj members =>
    if Object.contains members "field" || Object.contains members "op" then
      .obj (spelledOutTest members)
    else .obj (spelledOutMembers members)
  | .arr items => .arr (spelledOutItems items)
  | v => v

def spelledOutItems : List Json → List Json
  | [] => []
  | v :: items => spelledOut v :: spelledOutItems items

def spelledOutMembers : List (String × Json) → List (String × Json)
  | [] => []
  | (name, v) :: members => (name, spelledOut v) :: spelledOutMembers members

end

theorem spelledOutItems_eq (items : List Json) : spelledOutItems items = items.map spelledOut := by
  induction items with
  | nil => rfl
  | cons v items ih => rw [spelledOutItems, ih, List.map_cons]

theorem spelledOutMembers_eq (members : List (String × Json)) :
    spelledOutMembers members = members.map fun m => (m.1, spelledOut m.2) := by
  induction members with
  | nil => rfl
  | cons m members ih => rw [spelledOutMembers, ih, List.map_cons]

/-- Spelling out takes no further level. -/
theorem fits_spelledOut {levels : Nat} {v : Json} (h : Fits levels v) :
    Fits levels (spelledOut v) := by
  induction h with
  | null => exact .null _
  | bool _ b => exact .bool _ b
  | num _ proper => exact .num _ proper
  | str _ s => exact .str _ s
  | arr _ ih =>
    rw [spelledOut, spelledOutItems_eq]
    refine .arr fun a ha => ?_
    obtain ⟨b, hb, rfl⟩ := List.mem_map.mp ha
    exact ih b hb
  | obj sorted fit ih =>
    rw [spelledOut]
    split
    · -- a test gets at most a truth value more
      rw [spelledOutTest]
      split
      · exact (Fits.obj sorted fit).insert _ (.bool _ true)
      · exact .obj sorted fit
    · rw [spelledOutMembers_eq]
      refine .obj ?_ fun m hm => ?_
      · exact List.pairwise_map.mpr sorted
      · obtain ⟨n, hn, rfl⟩ := List.mem_map.mp hm
        exact ih n hn

/-- A test takes the value that it is written with. -/
theorem Takes.operand {op : Operator} {value : Option Json} {test : Test}
    (h : Takes op value test) : Takes op (some test.operand) test := by
  cases h with
  | absent => exact .present true
  | present expected => exact .present expected
  | eq v => exact .eq v
  | neq v => exact .neq v
  | contains v => exact .contains v
  | lt b => exact .lt b
  | lte b => exact .lte b
  | gt b => exact .gt b
  | gte b => exact .gte b
  | among items => exact .among items
  | regex text program h => exact .regex text program h

theorem Takes.operator {op : Operator} {value : Option Json} {test : Test}
    (h : Takes op value test) : test.operator = op := by
  cases h <;> rfl

/-- A test is written with the value that it was read with, if there was one. Only presence can do
without. -/
theorem Takes.value_cases {op : Operator} {value : Option Json} {test : Test}
    (h : Takes op value test) :
    value = some test.operand ∨ op = .present ∧ value = none ∧ test = .present true := by
  cases h with
  | absent => exact .inr ⟨rfl, rfl, rfl⟩
  | _ => exact .inl rfl

/-- The members that a test is written with. -/
def testMembers (field : FieldPath) (test : Test) : Object :=
  [("field", .str field.text), ("op", .str test.operator.name), ("value", test.operand)]

theorem testMembers_sorted (field : FieldPath) (test : Test) :
    (testMembers field test).Sorted := by
  have hfield : "field" < "op" := by decide
  have hop : "op" < "value" := by decide
  refine List.pairwise_cons.mpr ⟨?_, List.pairwise_cons.mpr ⟨?_, List.pairwise_singleton _ _⟩⟩
  · intro m hm
    rcases List.mem_pair.mp hm with rfl | rfl
    · exact hfield
    · exact hfield.trans hop
  · intro m hm
    rw [List.mem_singleton.mp hm]
    exact hop

theorem testMembers_keys {field : FieldPath} {test : Test} {m : String × Json}
    (h : m ∈ testMembers field test) : m.1 = "field" ∨ m.1 = "op" ∨ m.1 = "value" := by
  simp only [testMembers, List.mem_cons, List.not_mem_nil, or_false] at h
  rcases h with rfl | rfl | rfl <;> simp

/-- An object with the names and values of a test is what the test is written as. -/
theorem eq_testMembers {members : Object} {field : FieldPath} {test : Test}
    (hsorted : members.Sorted)
    (hkeys : ∀ m ∈ members, m.1 = "field" ∨ m.1 = "op" ∨ m.1 = "value")
    (hfield : Object.get? members "field" = some (.str field.text))
    (hop : Object.get? members "op" = some (.str test.operator.name))
    (hvalue : Object.get? members "value" = some test.operand) :
    members = testMembers field test := by
  -- under any other name than the three there is nothing on either side
  apply hsorted.ext (testMembers_sorted field test)
  intro name
  by_cases hname : name = "field" ∨ name = "op" ∨ name = "value"
  · rcases hname with rfl | rfl | rfl
    · rw [hfield]; rfl
    · rw [hop]; rfl
    · rw [hvalue]; rfl
  · rw [Object.get?_eq_none, Object.get?_eq_none]
    · rintro m hm rfl
      exact hname (testMembers_keys hm)
    · rintro m hm rfl
      exact hname (hkeys m hm)

theorem spelledOutTest_eq {members : Object} (field : FieldPath) {op : Operator} {test : Test}
    (hsorted : members.Sorted)
    (hkeys : ∀ m ∈ members, m.1 = "field" ∨ m.1 = "op" ∨ m.1 = "value")
    (hfield : Object.get? members "field" = some (.str field.text))
    (hop : Object.get? members "op" = some (.str op.name))
    (hvalue : Takes op (Object.get? members "value") test) :
    spelledOutTest members = testMembers field test := by
  have hop' : Object.get? members "op" = some (.str test.operator.name) := by
    rw [hop, hvalue.operator]
  rcases hvalue.value_cases with hsome | ⟨rfl, hnone, rfl⟩
  -- with its value the test is spelled out already
  · have hsame : spelledOutTest members = members := by
      rw [spelledOutTest, hsome]
    rw [hsame]
    exact eq_testMembers hsorted hkeys hfield hop' hsome
  -- presence without a value gets the one that it was read as
  · have hinsert : spelledOutTest members = members.insert "value" (.bool true) := by
      rw [spelledOutTest, hnone, hop]
      rfl
    rw [hinsert]
    apply eq_testMembers (hsorted.insert _ _)
    · intro m hm
      rcases Object.mem_insert hm with rfl | hm
      · exact .inr (.inr rfl)
      · exact hkeys m hm
    · rw [Object.get?_insert_of_ne _ _ (by decide), hfield]
    · rw [Object.get?_insert_of_ne _ _ (by decide), hop']
    · exact Object.get?_insert_self _ _ _

theorem spelledOut_group (name : String) (v : Json) (hfield : name ≠ "field") (hop : name ≠ "op") :
    spelledOut (.obj [(name, v)]) = .obj [(name, spelledOut v)] := by
  have hcontains : (Object.contains [(name, v)] "field" || Object.contains [(name, v)] "op") =
      false := by
    simp [Object.contains, Object.get?, hfield, hop]
  rw [spelledOut, if_neg (by rw [hcontains]; decide)]
  rfl

mutual

/-- A node is written with its tests spelled out. -/
theorem Node.toJson_eq : ∀ {depth : Nat} {v : Json} {c : Condition}, Node depth v c → v.Ordered →
    c.toJson = spelledOut v
  -- a test has no other members, so its order fixes them; a group has only one
  | _, _, _, .leaf _ hkeys hfield hnames hop hvalue, .obj hsorted _ => by
    have htest := spelledOutTest_eq hnames.path hsorted hkeys hfield hop hvalue
    rw [spelledOut, if_pos, htest]
    · rfl
    · simp [Object.contains, hfield]
  | _, _, _, .all _ hitems, .obj _ hordered => by
    have hlist := hitems.toJson_eq (hordered _ List.mem_cons_self)
    rw [spelledOut_group _ _ (by decide) (by decide), toJson, hlist]
    rfl
  | _, _, _, .any _ hitems, .obj _ hordered => by
    have hlist := hitems.toJson_eq (hordered _ List.mem_cons_self)
    rw [spelledOut_group _ _ (by decide) (by decide), toJson, hlist]
    rfl
  | _, _, _, .not _ hinner, .obj _ hordered => by
    have hnode := hinner.toJson_eq (hordered _ List.mem_cons_self)
    rw [spelledOut_group _ _ (by decide) (by decide), toJson, hnode]

theorem Nodes.toJson_eq : ∀ {depth : Nat} {items : List Json} {cs : List Condition},
    Nodes depth items cs → (Json.arr items).Ordered → toJsonList cs = spelledOutItems items
  | _, _, _, .nil _, _ => rfl
  | _, _, _, .cons head tail, .arr hordered => by
    have hhead := head.toJson_eq (hordered _ List.mem_cons_self)
    have htail := tail.toJson_eq (.arr fun a ha => hordered a (List.mem_cons_of_mem _ ha))
    rw [toJsonList, spelledOutItems, hhead, htail]

end

mutual

/-- What a node is written as is a node again, at the same depth and with the same meaning. -/
theorem Node.written : ∀ {depth : Nat} {v : Json} {c : Condition}, Node depth v c →
    Node depth c.toJson c
  | _, _, _, .leaf hdepth _ _ hnames _ hvalue => by
    have hoperand := hvalue.operand
    rw [← hvalue.operator] at hoperand
    exact .leaf hdepth (fun _ hm => testMembers_keys hm) rfl hnames rfl hoperand
  | _, _, _, .all hdepth hitems => .all hdepth hitems.written
  | _, _, _, .any hdepth hitems => .any hdepth hitems.written
  | _, _, _, .not hdepth hinner => .not hdepth hinner.written

theorem Nodes.written : ∀ {depth : Nat} {items : List Json} {cs : List Condition},
    Nodes depth items cs → Nodes depth (toJsonList cs) cs
  | _, _, _, .nil depth => .nil depth
  | _, _, _, .cons head tail => .cons head.written tail.written

end

/-- A condition that was read from text is read again from the text of what it is written as. -/
theorem ofJson_of_render {text : String} {v : Json} {c : Condition} (hparse : parse? text = some v)
    (h : ofJson v = .ok c) : ∃ w, parse? c.toJson.render = some w ∧ ofJson w = .ok c := by
  have hfits : Fits (maxLevels - 1) v := fits_of_parse? hparse
  have hnode : Node 0 v c := (readWithin_ok rfl).mp h
  -- the text is read again only if it does not nest deeper than the first one
  have hwritten : Fits (maxLevels - 1) c.toJson := by
    rw [hnode.toJson_eq hfits.ordered]
    exact fits_spelledOut hfits
  exact ⟨_, parse?_render hwritten, (readWithin_ok rfl).mpr hnode.written⟩

/-- A condition that was read is written as what it was read from, with every value spelled out, and
is read from that as itself. So writing again changes nothing, and the condition that is read again
holds where the first one holds and counts what it counts. -/
theorem toJson_of_ofJson {v : Json} {c : Condition} (hv : v.Ordered) (h : ofJson v = .ok c) :
    c.toJson = spelledOut v ∧ ofJson c.toJson = .ok c ∧
      (ofJson (spelledOut v)).map toJson = .ok (spelledOut v) ∧
      ∀ again, ofJson c.toJson = .ok again → ∀ (ctx : Context) (t : Trace),
        evaluateTraced ctx again t = evaluateTraced ctx c t := by
  have hnode : Node 0 v c := (readWithin_ok rfl).mp h
  have hspelled : c.toJson = spelledOut v := hnode.toJson_eq hv
  have hagain : ofJson c.toJson = .ok c := (readWithin_ok rfl).mpr hnode.written
  refine ⟨hspelled, hagain, ?_, ?_⟩
  · rw [← hspelled, hagain]
    rfl
  · intro again hread ctx t
    -- only one condition can be read there
    rw [hagain] at hread
    cases hread
    rfl

/-- The presence test under the negation is spelled out; the value that only looks like one is
not. -/
theorem toJson_of_ofJson_presence :
    let lookalike : Json := .obj [("field", .str "sender"), ("op", .str "exists")]
    let form : Json := .obj [("field", .str "form"), ("op", .str "eq"), ("value", lookalike)]
    let v : Json := .obj [("all", .arr [.obj [("not", lookalike)], form])]
    ∃ c, v.Ordered ∧ ofJson v = .ok c ∧ ofJson c.toJson = .ok c ∧
      c.toJson = .obj [("all", .arr [.obj [("not", .obj [("field", .str "sender"),
        ("op", .str "exists"), ("value", .bool true)])], form])] := by
  intro lookalike form v
  have hlookalike : lookalike.Ordered := by
    refine .obj (by unfold Object.Sorted; decide) ?_
    simp [Ordered.str]
  have hform : form.Ordered := by
    refine .obj (by unfold Object.Sorted; decide) ?_
    simp [Ordered.str, hlookalike]
  have hnot : Ordered (.obj [("not", lookalike)]) :=
    .obj (List.pairwise_singleton _ _) (by simp [hlookalike])
  have hv : v.Ordered :=
    .obj (List.pairwise_singleton _ _) (by simpa using Ordered.arr (by simp [hnot, hform]))
  let c : Condition := .all [.not (.leaf ⟨"sender", by decide⟩ (.present true)),
    .leaf ⟨"form", by decide⟩ (.eq lookalike)]
  have hread : ofJson v = .ok c := rfl
  have hwritten := toJson_of_ofJson hv hread
  exact ⟨c, hv, hread, hwritten.2.1, hwritten.1⟩

end Signoff.Condition
