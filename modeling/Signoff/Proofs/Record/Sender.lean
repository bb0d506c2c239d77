import Mathlib
import Signoff.Context
import Signoff.Proofs.Text.Split
import Signoff.Proofs.Text.Trim
import Signoff.Proofs.Text.Utf8

/-!
The domain of a sender. The last brackets of a sender hold its address, and nothing that stands
before them, such as the name that is shown, has a say in it. Brackets are one byte each, so that the
address may be cut out of the bytes of the sender, wherever they are found. The domain is read off
the address alone.
-/

namespace Signoff

/-! ### Small letters -/

namespace Text

/-- Where capitals go there is no character below the capitals. -/
theorem lowerRuns_above : ∀ r ∈ Casing.lowerRuns, 64 < (r.low : Int) + r.distance := by
  decide +kernel

theorem lower_eq_at {c : Char} (h : Casing.lower c = '@') : c = '@' := by
  have hat : ('@').toNat = 64 := rfl
  -- no other code gives this character, as the one of a code that is out of range is another
  have hcode {n : Nat} (hn : Char.ofNat n = '@') : n = 64 := by
    have hvalue := congrArg Char.toNat hn
    rw [Char.toNat_ofNat, hat] at hvalue
    split_ifs at hvalue
    exact hvalue
  rw [Casing.lower] at h
  split_ifs at h with hascii hcapital
  · have hlow : 65 ≤ c.toNat := hcapital.1
    have hmoved := hcode h
    omega
  · exact h
  · cases hfound : Casing.lowerRuns.findSome? (·.image? c.toNat) with
    | none =>
      rw [hfound] at h
      exact h
    | some n =>
      obtain ⟨r, hr, himage⟩ := Array.exists_of_findSome?_eq_some hfound
      have habove := lowerRuns_above r hr
      have hmoved : n = 64 := by
        rw [hfound] at h
        exact hcode h
      unfold Casing.Run.image? at himage
      split_ifs at himage with hwithin
      rw [Option.some.injEq] at himage
      omega

/-- A text in small letters has an at sign only where the text has one. -/
theorem at_mem_lowerChars {before s : List Char} (h : '@' ∈ lowerChars before s) : '@' ∈ s := by
  induction s generalizing before with
  | nil => cases h
  | cons c rest ih =>
    rw [lowerChars] at h
    rcases List.mem_append.mp h with hsmall | hrest
    · have hc : c = '@' := by
        split_ifs at hsmall
        · simp at hsmall
        · simp at hsmall
        · simp at hsmall
        · exact lower_eq_at (List.mem_singleton.mp hsmall).symm
      exact hc ▸ List.mem_cons_self
    · exact List.mem_cons_of_mem c (ih hrest)

theorem lowerChars_ne_nil {before s : List Char} (h : s ≠ []) : lowerChars before s ≠ [] := by
  cases s with
  | nil => exact absurd rfl h
  | cons c rest =>
    rw [lowerChars]
    split_ifs <;> simp

/-- What stands behind the last occurrence of a character that is no blank, once it is trimmed, is
the same whether or not the whole was trimmed before. -/
theorem afterLast?_trimChars {mark : Char} (hmark : isBlank mark = false) (s : List Char) :
    (afterLast? mark (trimChars s)).map trimChars = (afterLast? mark s).map trimChars := by
  -- blanks at the end are trimmed off the last part anyway, and those in front are not in it
  by_cases hmem : mark ∈ s
  · obtain ⟨before, after, rfl, hafter⟩ := exists_last hmem
    have hkept : mark ∉ after.rdropWhile isBlank := fun hin =>
      hafter ((List.rdropWhile_prefix isBlank after).subset hin)
    have hends : trimChars (after.rdropWhile isBlank) = trimChars after := by
      have hparts : after.rdropWhile isBlank ++ after.rtakeWhile isBlank = after := by
        rw [List.rdropWhile, List.rtakeWhile, ← List.reverse_append,
          List.takeWhile_append_dropWhile, List.reverse_reverse]
      have hblanks : ∀ c ∈ after.rtakeWhile isBlank, isBlank c = true := fun c hc =>
        List.mem_rtakeWhile_imp hc
      rw [← trimChars_append_blanks _ hblanks, hparts]
    rw [trimChars_append_cons hmark, afterLast?_append _ hkept, afterLast?_append _ hafter,
      Option.map_some, Option.map_some, hends]
  · have hnone : mark ∉ trimChars s := fun hin => hmem ((trimChars_sublist s).subset hin)
    rw [afterLast?_eq_none.mpr hnone, afterLast?_eq_none.mpr hmem]

end Text

namespace Record

/-! ### The address -/

/-- The address that a sender names: what stands between the last brackets, or the sender as it is
where there is no bracket of one kind, or where the last that closes stands before the last that
opens. -/
inductive Addressed (sender : String) : String → Prop
  | unopened (hopen : '<' ∉ sender.toList) : Addressed sender sender
  | unclosed (hclose : '>' ∉ sender.toList) : Addressed sender sender
  | crossed {name middle rest : String} (hsender : sender = name ++ ">" ++ middle ++ "<" ++ rest)
    (hopen : '<' ∉ rest.toList) (hclose : '>' ∉ middle.toList ++ rest.toList) :
    Addressed sender sender
  | enclosed {name address rest : String} (hsender : sender = name ++ "<" ++ address ++ ">" ++ rest)
    (hopen : '<' ∉ address.toList ++ rest.toList) (hclose : '>' ∉ rest.toList) :
    Addressed sender address

theorem exists_addressed (sender : String) : ∃ address, Addressed sender address := by
  by_cases hopen : '<' ∉ sender.toList
  · exact ⟨sender, .unopened hopen⟩
  by_cases hclose : '>' ∉ sender.toList
  · exact ⟨sender, .unclosed hclose⟩
  obtain ⟨name, rest, hsender, hrest⟩ := Text.exists_last (not_not.mp hopen)
  by_cases hbehind : '>' ∈ rest
  · obtain ⟨address, behind, rfl, hnone⟩ := Text.exists_last hbehind
    have hparts : sender =
        String.ofList name ++ "<" ++ String.ofList address ++ ">" ++ String.ofList behind := by
      apply String.toList_inj.mp
      simp [hsender]
    simp only [List.mem_append, List.mem_cons, not_or] at hrest
    refine ⟨_, .enclosed hparts ?_ ?_⟩
    · simpa using ⟨hrest.1, hrest.2.2⟩
    · simpa using hnone
  · -- the last that closes is in front of the last that opens
    have hbefore : '>' ∈ name := by
      rw [hsender] at hclose
      simpa [hbehind] using hclose
    obtain ⟨front, middle, rfl, hmiddle⟩ := Text.exists_last hbefore
    have hparts : sender =
        String.ofList front ++ ">" ++ String.ofList middle ++ "<" ++ String.ofList rest := by
      apply String.toList_inj.mp
      simp [hsender]
    refine ⟨_, .crossed hparts ?_ ?_⟩
    · simpa using hrest
    · simpa using ⟨hmiddle, hbehind⟩

variable {sender a : String}

/-- Brackets that are the wrong way round leave the sender as it is. -/
theorem address_crossed {name middle rest : List Char} (hopen : '<' ∉ rest)
    (hclose : '>' ∉ middle ++ '<' :: rest) :
    address (name ++ '>' :: (middle ++ '<' :: rest)) = name ++ '>' :: (middle ++ '<' :: rest) := by
  have hclosed := Text.lastIndexOf?_append name hclose
  have hopened := Text.lastIndexOf?_append (name ++ '>' :: middle) hopen
  rw [List.append_assoc, List.cons_append] at hopened
  rw [address, hopened, hclosed]
  have hreversed : ¬ (name ++ '>' :: middle).length < name.length := by
    simp
  exact if_neg hreversed

theorem address_enclosed {name inner rest : List Char} (hopen : '<' ∉ inner ++ '>' :: rest)
    (hclose : '>' ∉ rest) : address (name ++ '<' :: (inner ++ '>' :: rest)) = inner := by
  have hparts : name ++ '<' :: (inner ++ '>' :: rest) = (name ++ '<' :: inner) ++ '>' :: rest := by
    rw [List.append_assoc, List.cons_append]
  have hopened := Text.lastIndexOf?_append name hopen
  have hclosed := Text.lastIndexOf?_append (name ++ '<' :: inner) hclose
  have hordered : name.length < (name ++ '<' :: inner).length := by simp
  rw [address, hopened, hparts, hclosed]
  dsimp only
  rw [if_pos hordered]
  calc (((name ++ '<' :: inner) ++ '>' :: rest).take (name ++ '<' :: inner).length).drop
        (name.length + 1)
      = (name ++ '<' :: inner).drop (name.length + 1) := by rw [List.take_left]
    _ = inner := by rw [← List.drop_drop, List.drop_left, List.drop_one, List.tail_cons]

theorem Addressed.address_eq (h : Addressed sender a) : address sender.toList = a.toList := by
  cases h with
  | unopened hopen => rw [address, Text.lastIndexOf?_eq_none.mpr hopen]
  | unclosed hclose =>
    rw [address, Text.lastIndexOf?_eq_none.mpr hclose]
    cases Text.lastIndexOf? '<' sender.toList <;> rfl
  | @crossed name middle rest hsender hopen hclose =>
    have hlist : sender.toList = name.toList ++ '>' :: (middle.toList ++ '<' :: rest.toList) := by
      simp [hsender]
    rw [hlist]
    apply address_crossed hopen
    simpa using hclose
  | @enclosed name _ rest hsender hopen hclose =>
    have hlist : sender.toList = name.toList ++ '<' :: (a.toList ++ '>' :: rest.toList) := by
      simp [hsender]
    rw [hlist]
    apply address_enclosed _ hclose
    simpa using hopen

/-! ### The address by places in the bytes -/

/-- The address of a sender, cut out at the places of the last brackets in its bytes. -/
def cutAddress? (sender : String) : Option String :=
  match Utf8.lastPlace? ('<').toNat (Utf8.bytes sender),
      Utf8.lastPlace? ('>').toNat (Utf8.bytes sender) with
  | some first, some last =>
    if first < last then Utf8.between? sender (first + 1) last else some sender
  | _, _ => some sender

theorem Addressed.cutAddress?_eq (h : Addressed sender a) : cutAddress? sender = some a := by
  have hopening : String.singleton '<' = "<" := by decide
  have hclosing : String.singleton '>' = ">" := by decide
  cases h with
  | unopened hopen =>
    have hnone : Utf8.lastPlace? ('<').toNat (Utf8.bytes sender) = none :=
      Utf8.lastPlace?_eq_none.mpr fun hmem => hopen ((Utf8.mem_bytes (by decide)).mp hmem)
    rw [cutAddress?, hnone]
  | unclosed hclose =>
    have hnone : Utf8.lastPlace? ('>').toNat (Utf8.bytes sender) = none :=
      Utf8.lastPlace?_eq_none.mpr fun hmem => hclose ((Utf8.mem_bytes (by decide)).mp hmem)
    rw [cutAddress?, hnone]
    cases Utf8.lastPlace? ('<').toNat (Utf8.bytes sender) <;> rfl
  | @crossed name middle rest hsender hopen hclose =>
    have hclose' : '>' ∉ (middle ++ "<" ++ rest).toList := by simpa using hclose
    have hclosed := Utf8.lastPlace?_bytes (by decide) name hclose'
    have hopened := Utf8.lastPlace?_bytes (by decide) (name ++ ">" ++ middle) hopen
    have hparts : name ++ ">" ++ (middle ++ "<" ++ rest) = sender := by
      rw [hsender]
      simp only [String.append_assoc]
    rw [hclosing, hparts] at hclosed
    rw [hopening, ← hsender] at hopened
    have hreversed : ¬ (name ++ ">" ++ middle).utf8ByteSize < name.utf8ByteSize := by
      simp only [String.utf8ByteSize_append]
      omega
    rw [cutAddress?, hopened, hclosed]
    exact if_neg hreversed
  | @enclosed name _ rest hsender hopen hclose =>
    have hopen' : '<' ∉ (a ++ ">" ++ rest).toList := by simpa using hopen
    have hopened := Utf8.lastPlace?_bytes (by decide) name hopen'
    have hclosed := Utf8.lastPlace?_bytes (by decide) (name ++ "<" ++ a) hclose
    have hparts : name ++ "<" ++ (a ++ ">" ++ rest) = sender := by
      rw [hsender]
      simp only [String.append_assoc]
    rw [hopening, hparts] at hopened
    rw [hclosing, ← hsender] at hclosed
    -- the bracket that opens is one byte wide
    have hwidth : name.utf8ByteSize + 1 = (name ++ "<").utf8ByteSize := by
      rw [String.utf8ByteSize_append]
      rfl
    have hordered : name.utf8ByteSize < (name ++ "<" ++ a).utf8ByteSize := by
      rw [String.utf8ByteSize_append]
      omega
    have hbetween := Utf8.between?_append (name ++ "<") a (">" ++ rest)
    rw [← String.append_assoc, ← hsender] at hbetween
    rw [cutAddress?, hopened, hclosed]
    dsimp only
    rw [if_pos hordered, hwidth, hbetween]

/-! ### The domain -/

/-- The domain of an address: what stands behind its last at sign, without blank ends and in small
letters. There is none where nothing but blanks stands there. -/
def DomainOf (address domain : String) : Prop :=
  ∃ before after : String, address = before ++ "@" ++ after ∧ '@' ∉ after.toList ∧
    Text.trim after ≠ "" ∧ domain = Text.lowercase (Text.trim after)

theorem senderDomain?_eq_some {domain : String} (h : Addressed sender a) :
    senderDomain? sender = some domain ↔ DomainOf a domain := by
  have htrimmed := Text.afterLast?_trimChars (show Text.isBlank '@' = false by decide) a.toList
  have hread : senderDomain? sender =
      ((Text.afterLast? '@' a.toList).map Text.trimChars).bind fun part =>
        if part.isEmpty then none else some (Text.lowercase (String.ofList part)) := by
    rw [← htrimmed, senderDomain?, h.address_eq]
    cases Text.afterLast? '@' (Text.trimChars a.toList) <;> rfl
  rw [hread, Option.bind_map, Option.bind_eq_some_iff, DomainOf]
  constructor
  · rintro ⟨after, hafter, hdomain⟩
    obtain ⟨before, hparts, hnone⟩ := Text.afterLast?_eq_some.mp hafter
    simp only [Function.comp_apply] at hdomain
    split_ifs at hdomain with hempty
    rw [Option.some.injEq] at hdomain
    refine ⟨String.ofList before, String.ofList after, ?_, ?_, ?_, ?_⟩
    · apply String.toList_inj.mp
      simp [hparts]
    · rwa [String.toList_ofList]
    · simpa [Text.trim] using hempty
    · rw [← hdomain, Text.trim, String.toList_ofList]
  · rintro ⟨before, after, rfl, hnone, hne, rfl⟩
    have hlist : (before ++ "@" ++ after).toList = before.toList ++ '@' :: after.toList := by simp
    have hfull : Text.trimChars after.toList ≠ [] := by simpa [Text.trim] using hne
    refine ⟨after.toList, ?_, ?_⟩
    · rw [hlist, Text.afterLast?_append _ hnone]
    · rw [Function.comp_apply, if_neg (by simpa using hfull), Text.trim]

theorem DomainOf.ne_empty {domain : String} (h : DomainOf a domain) : domain ≠ "" := by
  obtain ⟨before, after, -, -, hafter, rfl⟩ := h
  rw [Text.lowercase, ne_eq, ← String.toList_inj, String.toList_ofList]
  apply Text.lowerChars_ne_nil
  rwa [ne_eq, ← String.toList_inj] at hafter

theorem DomainOf.at_not_mem {domain : String} (h : DomainOf a domain) : '@' ∉ domain.toList := by
  obtain ⟨before, after, -, hafter, -, rfl⟩ := h
  intro hmem
  rw [Text.lowercase, String.toList_ofList] at hmem
  have htrim := Text.at_mem_lowerChars hmem
  rw [Text.trim, String.toList_ofList] at htrim
  exact hafter ((Text.trimChars_sublist _).subset htrim)

theorem senderDomain?_congr {other : String} (h : Addressed sender a) (h' : Addressed other a) :
    senderDomain? sender = senderDomain? other := by
  apply Option.ext
  intro domain
  rw [senderDomain?_eq_some h, senderDomain?_eq_some h']

/-- What conditions find as the domain of a record that says who sent it, but not from where. -/
theorem lookup?_senderDomain {r : Record} (hsender : r.attributes.get? "sender" = some (.str sender))
    (hdomain : r.attributes.get? "sender_domain" = none) (now : Instant) :
    (Context.ofRecord r now).lookup? "sender_domain" = (senderDomain? sender).map .str := by
  have hpath : FieldPath.isPath "sender_domain" = true := by decide
  have hsegments : FieldPath.segmentsOf "sender_domain" = ["sender_domain"] := by decide
  have hnow : "sender_domain" ≠ Context.nowName := by decide
  have hkept : (r.attributes.insert "record_id" (.str r.id)).get? "sender_domain" = none := by
    rw [Json.Object.get?_insert_of_ne _ _ (by decide), hdomain]
  -- the identifier of the record is put in first, and hides neither name
  have hderived : Context.derivedDomain? (r.attributes.insert "record_id" (.str r.id)) =
      senderDomain? sender := by
    rw [Context.derivedDomain?, Json.Object.contains, hkept,
      Json.Object.get?_insert_of_ne _ _ (by decide), hsender]
    rfl
  have hget : Json.Object.get? (Context.ofRecord r now).values "sender_domain" =
      (senderDomain? sender).map .str := by
    rw [Context.ofRecord, Context.ofValues, hderived, Json.Object.get?_insert_of_ne _ _ hnow]
    cases senderDomain? sender with
    | none => exact hkept
    | some domain => exact Json.Object.get?_insert_self _ _ _
  rw [Context.lookup?, FieldPath.ofText?, dif_pos hpath, Option.bind_some, Context.resolve?,
    FieldPath.segments, hsegments, Context.follow?, Context.child?, hget]
  cases senderDomain? sender <;> rfl

/-- The name that a sender shows cannot choose the domain. Whatever stands before an address in
brackets, the domain is the one of the address by itself. Every sender names one address, which is
cut out of its bytes between characters; its domain is the text behind the last at sign of that
address, trimmed and in small letters, and is neither empty nor has an at sign in it. And it is this
domain that conditions find of a record that comes without one. -/
theorem display_name_ignored :
    (∀ name address : String, '<' ∉ address.toList → '>' ∉ address.toList →
      senderDomain? (name ++ "<" ++ address ++ ">") = senderDomain? address) ∧
    (∀ sender, ∃ address, Addressed sender address ∧ cutAddress? sender = some address ∧
      ∀ domain, senderDomain? sender = some domain ↔ DomainOf address domain) ∧
    (∀ sender domain, senderDomain? sender = some domain → domain ≠ "" ∧ '@' ∉ domain.toList) ∧
    ∀ (r : Record) (sender : String) (now : Instant),
      r.attributes.get? "sender" = some (.str sender) →
      r.attributes.get? "sender_domain" = none →
      (Context.ofRecord r now).lookup? "sender_domain" = (senderDomain? sender).map .str := by
  refine ⟨?_, ?_, ?_, ?_⟩
  · intro name address hopen hclose
    have hnothing : name ++ "<" ++ address ++ ">" = name ++ "<" ++ address ++ ">" ++ "" :=
      String.append_empty.symm
    have hshown : Addressed (name ++ "<" ++ address ++ ">") address :=
      .enclosed hnothing (by simpa using hopen) List.not_mem_nil
    exact senderDomain?_congr hshown (.unopened hopen)
  · intro sender
    obtain ⟨address, h⟩ := exists_addressed sender
    exact ⟨address, h, h.cutAddress?_eq, fun domain => senderDomain?_eq_some h⟩
  · intro sender domain hdomain
    obtain ⟨address, h⟩ := exists_addressed sender
    have hof := (senderDomain?_eq_some h).mp hdomain
    exact ⟨hof.ne_empty, hof.at_not_mem⟩
  · intro r sender now hsender hdomain
    exact lookup?_senderDomain hsender hdomain now

/-- A name that shows another address, with brackets and at signs in it and wide characters. -/
theorem display_name_ignored_sample :
    let name := "\"Ann\" <ann@bank.example> ≪é@ß≫ > "
    let address := " Eve@Mail.Example\t"
    let r : Record := ⟨"r", [("sender", .str (name ++ "<" ++ address ++ ">"))]⟩
    let now : Instant := ⟨2026, 60, 43200, 0⟩
    '<' ∉ address.toList ∧ '>' ∉ address.toList ∧
      senderDomain? (name ++ "<" ++ address ++ ">") = some "mail.example" ∧
      "mail.example" ≠ "" ∧ '@' ∉ "mail.example".toList ∧
      r.attributes.get? "sender" = some (.str (name ++ "<" ++ address ++ ">")) ∧
      r.attributes.get? "sender_domain" = none ∧
      (Context.ofRecord r now).lookup? "sender_domain" = some (.str "mail.example") := by
  intro name address r now
  obtain ⟨hname, -, hdomain, hlookup⟩ := display_name_ignored
  have hopen : '<' ∉ address.toList := by decide
  have hclose : '>' ∉ address.toList := by decide
  have hshown : senderDomain? (name ++ "<" ++ address ++ ">") = some "mail.example" := by
    rw [hname name address hopen hclose]
    decide +kernel
  have hsender : r.attributes.get? "sender" = some (.str (name ++ "<" ++ address ++ ">")) := rfl
  have hnone : r.attributes.get? "sender_domain" = none := by decide
  have hseen := hlookup r _ now hsender hnone
  rw [hshown] at hseen
  exact ⟨hopen, hclose, hshown, (hdomain _ _ hshown).1, (hdomain _ _ hshown).2, hsender, hnone, hseen⟩

/-- Brackets that are the wrong way round hold nothing. -/
example : senderDomain? "eve@mail.example> <ann" = some "mail.example> <ann" := by
  decide +kernel

end Record
end Signoff
