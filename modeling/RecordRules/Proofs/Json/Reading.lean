import RecordRules.Json.Decode

/-!
# Reading what was written

The reader is followed through the written form of a value that holds no numbers, up to the limit
of containers that may be open at once. There are two outcomes, and `Json.nesting` decides between
them: the value comes back whole, and the text behind it is left; or the writing breaks off inside
the value, and nothing is left.

* `readString_quoted`: a string is read back, whatever characters it is made of;
* `Json.BreaksOff` are the drafts of a value that breaks off inside;
* `Json.ReadAs` holds the two outcomes; `ReadAs.thenItems` and `ReadAs.thenMembers` carry them
  through the parts of a container.

**`readValue_chars`** is the induction over the value, and `Document.ofText_print` says it of whole
texts.
-/

namespace RecordRules

namespace Json

/-! ## 1. Strings -/

theorem hexUnit?_control : ∀ n < 0x20,
    hexUnit? '0' '0' (hexDigit (n / 16)) (hexDigit (n % 16)) = some n := by
  decide

/-- A control character is no half of a pair. -/
theorem pushUnit_control (seen : List Char) {c : Char} (h : c.toNat < 0x20) :
    StringState.pushUnit ⟨seen, false, none⟩ c.toNat = ⟨c :: seen, false, none⟩ := by
  unfold StringState.pushUnit
  rw [if_neg (by omega), if_neg (by omega), Char.ofNat_toNat]
  rfl

/-- One character is read back from its written form. -/
theorem readString_escaped (seen : List Char) (c : Char) (rest : List Char) :
    readString ⟨seen, false, none⟩ (escaped c ++ rest)
      = readString ⟨c :: seen, false, none⟩ rest := by
  unfold escaped
  split
  -- the short escapes
  any_goals rfl
  next =>
    split
    · next hcontrol =>
      simp only [List.cons_append, List.nil_append]
      rw [readString]
      simp only [hexUnit?_control _ hcontrol, pushUnit_control seen hcontrol]
    · next hplain =>
      rw [List.cons_append, List.nil_append, readString]
      · rw [if_neg hplain]
        rfl
      -- it is neither the closing mark nor a backslash, which have short escapes
      all_goals simp_all

theorem readString_flatMap (rest : List Char) : ∀ cs seen : List Char,
    readString ⟨seen, false, none⟩ (cs.flatMap escaped ++ '"' :: rest)
      = ⟨.string (some (String.ofList (seen.reverse ++ cs))), some rest⟩
  | [], seen => by
      rw [List.flatMap_nil, List.nil_append, List.append_nil, readString]
      rfl
  | c :: cs, seen => by
      rw [List.flatMap_cons, List.append_assoc, readString_escaped, readString_flatMap rest cs,
        List.reverse_cons, List.append_assoc]
      rfl

/-- **A string is read back from its written form.** -/
theorem readString_quoted (s : String) (rest : List Char) :
    readString ⟨[], false, none⟩ (s.toList.flatMap escaped ++ '"' :: rest)
      = ⟨.string (some s), some rest⟩ := by
  rw [readString_flatMap, List.reverse_nil, List.nil_append, String.ofList_toList]

/-! ## 2. Containers in containers -/

mutual

/-- How many containers are open at once where a value is deepest. -/
def nesting : Json → Nat
  | .array items => itemsNesting items + 1
  | .object members => membersNesting members + 1
  | _ => 0

/-- The greatest nesting among items. -/
def itemsNesting : List Json → Nat
  | [] => 0
  | item :: items => max item.nesting (itemsNesting items)

/-- The greatest nesting among the values of members. -/
def membersNesting : List (String × Json) → Nat
  | [] => 0
  | (_, value) :: members => max value.nesting (membersNesting members)

end

@[simp] theorem nesting_string (s : String) : nesting (.string s) = 0 := rfl

/-- A value with no number in it. -/
inductive Numberless : Json → Prop where
  /-- The value `null`. -/
  | null : Numberless .null
  /-- A truth value. -/
  | bool (b : Bool) : Numberless (.bool b)
  /-- A string. -/
  | string (s : String) : Numberless (.string s)
  /-- An array of such values. -/
  | array {items : List Json} (h : ∀ item ∈ items, Numberless item) : Numberless (.array items)
  /-- An object with such values. -/
  | object {members : List (String × Json)} (h : ∀ member ∈ members, Numberless member.2) :
      Numberless (.object members)

mutual

/-- A draft of a value that breaks off somewhere inside. -/
inductive BreaksOff : Json → Draft → Prop where
  /-- An array that breaks off. -/
  | array {items : List Json} {drafts : List Draft} (h : ItemsBreakOff items drafts) :
      BreaksOff (.array items) (.array drafts (.broken .malformed))
  /-- An object that breaks off. -/
  | object {members : List (String × Json)} {drafts : List DraftMember}
      (h : MembersBreakOff members drafts) :
      BreaksOff (.object members) (.object drafts (.broken .malformed))

/-- Items up to a place where they break off. -/
inductive ItemsBreakOff : List Json → List Draft → Prop where
  /-- In front of what is left of them. -/
  | here (items : List Json) : ItemsBreakOff items []
  /-- Inside the first. -/
  | inside {item : Json} {draft : Draft} (h : BreaksOff item draft) (items : List Json) :
      ItemsBreakOff (item :: items) [draft]
  /-- Behind the first. -/
  | behind (item : Json) {items : List Json} {drafts : List Draft}
      (h : ItemsBreakOff items drafts) :
      ItemsBreakOff (item :: items) (.ofJson item :: drafts)

/-- Members up to a place where they break off. -/
inductive MembersBreakOff : List (String × Json) → List DraftMember → Prop where
  /-- In front of what is left of them. -/
  | here (members : List (String × Json)) : MembersBreakOff members []
  /-- Inside the value of the first. -/
  | inside (name : String) {value : Json} {draft : Draft} (h : BreaksOff value draft)
      (members : List (String × Json)) :
      MembersBreakOff ((name, value) :: members) [.mk (.string (some name)) draft]
  /-- Behind the first. -/
  | behind (name : String) (value : Json) {members : List (String × Json)}
      {drafts : List DraftMember} (h : MembersBreakOff members drafts) :
      MembersBreakOff ((name, value) :: members)
        (.mk (.string (some name)) (.ofJson value) :: drafts)

end

/-! ## 3. The outcomes of reading -/

/-- What is read of a value with `rest` behind it, when so many containers may be opened. -/
inductive ReadAs (j : Json) (limit : Nat) (rest : List Char) : Reading → Prop where
  /-- The value, when its nesting is within the limit. -/
  | whole (h : j.nesting ≤ limit) : ReadAs j limit rest ⟨.ofJson j, some rest⟩
  /-- A value that breaks off, when it is not. -/
  | brokenOff {draft : Draft} (h : limit < j.nesting) (hd : BreaksOff j draft) :
      ReadAs j limit rest ⟨draft, none⟩

/-- What is read of items up to the end of their array. -/
inductive ItemsReadAs (items : List Json) (limit : Nat) (rest : List Char) :
    ItemsReading → Prop where
  /-- The items. -/
  | whole (h : itemsNesting items ≤ limit) :
      ItemsReadAs items limit rest ⟨Draft.ofItems items, .closed, some rest⟩
  /-- Items that break off. -/
  | brokenOff {drafts : List Draft} (h : limit < itemsNesting items)
      (hd : ItemsBreakOff items drafts) :
      ItemsReadAs items limit rest ⟨drafts, .broken .malformed, none⟩

/-- What is read of members up to the end of their object. -/
inductive MembersReadAs (members : List (String × Json)) (limit : Nat) (rest : List Char) :
    MembersReading → Prop where
  /-- The members. -/
  | whole (h : membersNesting members ≤ limit) :
      MembersReadAs members limit rest ⟨Draft.ofMembers members, .closed, some rest⟩
  /-- Members that break off. -/
  | brokenOff {drafts : List DraftMember} (h : limit < membersNesting members)
      (hd : MembersBreakOff members drafts) :
      MembersReadAs members limit rest ⟨drafts, .broken .malformed, none⟩

/-- An item with the items that are read behind it. -/
def thenItems (one : Reading) (more : List Char → ItemsReading) : ItemsReading :=
  match one.rest with
  | none => ⟨[one.draft], .broken .malformed, none⟩
  | some rest => { more rest with items := one.draft :: (more rest).items }

/-- The value of a member with the members that are read behind it. -/
def thenMembers (name : String) (one : Reading) (more : List Char → MembersReading) :
    MembersReading :=
  match one.rest with
  | none => ⟨[.mk (.string (some name)) one.draft], .broken .malformed, none⟩
  | some rest =>
    { more rest with members := .mk (.string (some name)) one.draft :: (more rest).members }

theorem ReadAs.thenItems {item : Json} {items : List Json} {limit : Nat} {rest behind : List Char}
    {one : Reading} {more : List Char → ItemsReading} (h : ReadAs item limit behind one)
    (hs : ItemsReadAs items limit rest (more behind)) :
    ItemsReadAs (item :: items) limit rest (Json.thenItems one more) := by
  cases h with
  | brokenOff h hd =>
      have hn : limit < itemsNesting (item :: items) :=
        Nat.lt_of_lt_of_le h (Nat.le_max_left _ _)
      exact .brokenOff hn (.inside hd items)
  | whole h =>
      simp only [Json.thenItems]
      generalize more behind = reading at hs
      cases hs with
      | whole hs =>
          have hn : itemsNesting (item :: items) ≤ limit := Nat.max_le.mpr ⟨h, hs⟩
          exact .whole hn
      | brokenOff hs hd =>
          exact .brokenOff (Nat.lt_of_lt_of_le hs (Nat.le_max_right _ _)) (.behind item hd)

theorem ReadAs.thenMembers (name : String) {value : Json} {members : List (String × Json)}
    {limit : Nat} {rest behind : List Char} {one : Reading} {more : List Char → MembersReading}
    (h : ReadAs value limit behind one) (hs : MembersReadAs members limit rest (more behind)) :
    MembersReadAs ((name, value) :: members) limit rest (Json.thenMembers name one more) := by
  cases h with
  | brokenOff h hd =>
      have hn : limit < membersNesting ((name, value) :: members) :=
        Nat.lt_of_lt_of_le h (Nat.le_max_left _ _)
      exact .brokenOff hn (.inside name hd members)
  | whole h =>
      simp only [Json.thenMembers]
      generalize more behind = reading at hs
      cases hs with
      | whole hs =>
          have hn : membersNesting ((name, value) :: members) ≤ limit := Nat.max_le.mpr ⟨h, hs⟩
          exact .whole hn
      | brokenOff hs hd =>
          exact .brokenOff (Nat.lt_of_lt_of_le hs (Nat.le_max_right _ _)) (.behind name value hd)

/-! ## 4. Parts with commas between them -/

/-- Written parts with a comma in front of each. -/
def behindCommas (parts : List (List Char)) : List Char := parts.flatMap (',' :: ·)

theorem commaJoined_cons (part : List Char) (parts : List (List Char)) :
    commaJoined (part :: parts) = part ++ behindCommas parts := by
  unfold commaJoined
  induction parts generalizing part with
  | nil => rw [List.intercalate_singleton, behindCommas, List.flatMap_nil, List.append_nil]
  | cons next parts ih =>
      rw [List.intercalate_cons_cons, ih, behindCommas, behindCommas, List.flatMap_cons]
      simp only [List.append_assoc, List.cons_append, List.nil_append]

theorem length_le_behindCommas : ∀ parts : List (List Char),
    parts.length ≤ (behindCommas parts).length
  | [] => Nat.le_refl 0
  | part :: parts => by
      have ih := length_le_behindCommas parts
      rw [behindCommas] at ih ⊢
      rw [List.flatMap_cons, List.length_append, List.length_cons, List.length_cons]
      omega

/-- Every part but the first takes at least its comma. -/
theorem length_le_commaJoined : ∀ parts : List (List Char),
    parts.length ≤ (commaJoined parts).length + 1
  | [] => Nat.zero_le _
  | part :: parts => by
      rw [commaJoined_cons, List.length_append, List.length_cons]
      have := length_le_behindCommas parts
      omega

theorem length_le_commaJoined_of_mem {part : List Char} {parts : List (List Char)}
    (h : part ∈ parts) : part.length ≤ (commaJoined parts).length := by
  obtain ⟨front, back, rfl⟩ := List.append_of_mem h
  cases front with
  | nil =>
      rw [List.nil_append, commaJoined_cons, List.length_append]
      omega
  | cons first front =>
      rw [List.cons_append, commaJoined_cons, behindCommas, List.flatMap_append, List.flatMap_cons]
      simp only [List.length_append, List.length_cons]
      omega

theorem itemChars_eq_map : ∀ items : List Json, itemChars items = items.map chars
  | [] => rfl
  | item :: items => by rw [itemChars, List.map_cons, itemChars_eq_map items]

/-- A budget for the characters of an array is one for its items, and for the characters of each. -/
theorem budget_items {items : List Json} {budget : Nat}
    (h : (chars (.array items)).length ≤ budget) :
    items.length < budget ∧ ∀ item ∈ items, item.chars.length ≤ budget := by
  rw [chars, List.cons_append, List.length_cons, List.length_append, List.length_singleton,
    itemChars_eq_map] at h
  refine ⟨?_, fun item hitem => ?_⟩
  · have hcount := length_le_commaJoined (items.map chars)
    rw [List.length_map] at hcount
    omega
  · have hpart := length_le_commaJoined_of_mem (List.mem_map_of_mem (f := chars) hitem)
    omega

theorem memberChars_eq_map : ∀ members : List (String × Json),
    memberChars members = members.map fun member => quoted member.1 ++ ':' :: member.2.chars
  | [] => rfl
  | (name, value) :: members => by rw [memberChars, List.map_cons, memberChars_eq_map members]

/-- A budget for the characters of an object is one for its members, and for the characters of the
    value of each. -/
theorem budget_members {members : List (String × Json)} {budget : Nat}
    (h : (chars (.object members)).length ≤ budget) :
    members.length < budget ∧ ∀ member ∈ members, member.2.chars.length ≤ budget := by
  rw [chars, List.cons_append, List.length_cons, List.length_append, List.length_singleton,
    memberChars_eq_map] at h
  refine ⟨?_, fun member hmember => ?_⟩
  · have hcount := length_le_commaJoined
      (members.map fun member => quoted member.1 ++ ':' :: member.2.chars)
    rw [List.length_map] at hcount
    omega
  · have hpart := length_le_commaJoined_of_mem (List.mem_map_of_mem
      (f := fun member : String × Json => quoted member.1 ++ ':' :: member.2.chars) hmember)
    rw [List.length_append, List.length_cons] at hpart
    omega

/-! ## 5. Containers -/

theorem skipBlanks_cons {c : Char} (h : isBlank c = false) (cs : List Char) :
    skipBlanks (c :: cs) = c :: cs := by
  rw [skipBlanks, List.dropWhile_cons_of_neg]
  rw [h]
  decide

theorem skipBlanks_mark : ∀ cs : List Char, skipBlanks ('"' :: cs) = '"' :: cs :=
  skipBlanks_cons (by decide)

section Containers

variable (read : List Char → Reading) (budget : Nat)

theorem readItems_first {c : Char} (hblank : isBlank c = false) (hend : c ≠ ']') (cs : List Char) :
    readItems read (budget + 1) true (c :: cs)
      = thenItems (read (c :: cs)) (readItems read budget false) := by
  rw [readItems, skipBlanks_cons hblank]
  simp only [if_neg hend, if_true]
  rfl

theorem readItems_later (cs : List Char) :
    readItems read (budget + 1) false (',' :: cs)
      = thenItems (read cs) (readItems read budget false) := rfl

theorem readMembers_first (name : String) (cs : List Char) :
    readMembers read (budget + 1) true (quoted name ++ ':' :: cs)
      = thenMembers name (read cs) (readMembers read budget false) := by
  rw [quoted, List.cons_append, List.cons_append, List.append_assoc, List.singleton_append,
    readMembers]
  simp only [skipBlanks_mark, readString_quoted]
  rfl

theorem readMembers_later (name : String) (cs : List Char) :
    readMembers read (budget + 1) false (',' :: (quoted name ++ ':' :: cs))
      = thenMembers name (read cs) (readMembers read budget false) := by
  rw [quoted, List.cons_append, List.cons_append, List.append_assoc, List.singleton_append,
    readMembers]
  simp only [skipBlanks_cons (c := ',') (by decide), skipBlanks_mark, readString_quoted]
  rfl

variable {read budget} {limit : Nat}

theorem readItems_behindCommas (rest : List Char) : ∀ {items : List Json} {budget : Nat},
    (∀ item ∈ items, ∀ rest, ReadAs item limit rest (read (item.chars ++ rest))) →
      items.length < budget →
      ItemsReadAs items limit rest
        (readItems read budget false (behindCommas (itemChars items) ++ ']' :: rest))
  | [], budget + 1, _, _ => .whole (Nat.zero_le limit)
  | item :: items, budget + 1, hread, hlen => by
      rw [List.forall_mem_cons] at hread
      rw [itemChars, behindCommas, List.flatMap_cons, List.cons_append, List.cons_append,
        List.append_assoc, readItems_later]
      exact (hread.1 _).thenItems
        (readItems_behindCommas rest hread.2 (Nat.lt_of_succ_lt_succ hlen))

/-- **Items are read as far as each of them is.** None of them begins like the end of an array. -/
theorem readItems_commaJoined (rest : List Char) {items : List Json}
    (hread : ∀ item ∈ items, ∀ rest, ReadAs item limit rest (read (item.chars ++ rest)))
    (hfirst : ∀ item ∈ items, ∃ c cs, item.chars = c :: cs ∧ isBlank c = false ∧ c ≠ ']')
    (hlen : items.length < budget) :
    ItemsReadAs items limit rest
      (readItems read budget true (commaJoined (itemChars items) ++ ']' :: rest)) := by
  obtain ⟨budget, rfl⟩ := Nat.exists_eq_add_one.mpr (Nat.zero_lt_of_lt hlen)
  cases items with
  | nil => exact .whole (Nat.zero_le limit)
  | cons item items =>
      rw [List.forall_mem_cons] at hread
      obtain ⟨c, cs, hchars, hblank, hend⟩ := hfirst item List.mem_cons_self
      have hitem := readItems_first read budget hblank hend
        (cs ++ (behindCommas (itemChars items) ++ ']' :: rest))
      rw [← List.cons_append, ← hchars] at hitem
      rw [itemChars, commaJoined_cons, List.append_assoc, hitem]
      exact (hread.1 _).thenItems
        (readItems_behindCommas rest hread.2 (Nat.lt_of_succ_lt_succ hlen))

theorem readMembers_behindCommas (rest : List Char) :
    ∀ {members : List (String × Json)} {budget : Nat},
      (∀ member ∈ members, ∀ rest,
        ReadAs member.2 limit rest (read (member.2.chars ++ rest))) →
      members.length < budget →
      MembersReadAs members limit rest
        (readMembers read budget false (behindCommas (memberChars members) ++ '\x7d' :: rest))
  | [], budget + 1, _, _ => .whole (Nat.zero_le limit)
  | (name, value) :: members, budget + 1, hread, hlen => by
      rw [List.forall_mem_cons] at hread
      rw [memberChars, behindCommas, List.flatMap_cons, List.append_assoc, List.cons_append,
        List.append_assoc, List.cons_append, readMembers_later]
      exact (hread.1 _).thenMembers name
        (readMembers_behindCommas rest hread.2 (Nat.lt_of_succ_lt_succ hlen))

/-- **Members are read as far as each of their values is.** -/
theorem readMembers_commaJoined (rest : List Char) {members : List (String × Json)}
    (hread : ∀ member ∈ members, ∀ rest,
      ReadAs member.2 limit rest (read (member.2.chars ++ rest)))
    (hlen : members.length < budget) :
    MembersReadAs members limit rest
      (readMembers read budget true (commaJoined (memberChars members) ++ '\x7d' :: rest)) := by
  obtain ⟨budget, rfl⟩ := Nat.exists_eq_add_one.mpr (Nat.zero_lt_of_lt hlen)
  cases members with
  | nil => exact .whole (Nat.zero_le limit)
  | cons member members =>
      obtain ⟨name, value⟩ := member
      rw [List.forall_mem_cons] at hread
      rw [memberChars, commaJoined_cons, List.append_assoc, List.append_assoc, List.cons_append,
        readMembers_first]
      exact (hread.1 _).thenMembers name
        (readMembers_behindCommas rest hread.2 (Nat.lt_of_succ_lt_succ hlen))

end Containers

/-! ## 6. Values -/

theorem Numberless.exists_first {j : Json} (h : Numberless j) :
    ∃ c cs, j.chars = c :: cs ∧ isBlank c = false ∧ c ≠ ']' := by
  cases h with
  | null => exact ⟨_, _, rfl, by decide, by decide⟩
  | bool b => cases b <;> exact ⟨_, _, rfl, by decide, by decide⟩
  | string s => exact ⟨_, _, rfl, by decide, by decide⟩
  | array h => exact ⟨_, _, rfl, by decide, by decide⟩
  | object h => exact ⟨_, _, rfl, by decide, by decide⟩

/-- **A value is read back when it fits under the limit, and breaks off inside when it does not.**
    A part takes at least one character, so the budget of parts is never used up. -/
theorem readValue_chars {budget : Nat} {j : Json} (h : Numberless j) :
    ∀ (limit : Nat) (rest : List Char), j.chars.length ≤ budget →
      ReadAs j limit rest (readValue budget limit (j.chars ++ rest)) := by
  induction h with
  | null =>
      intro limit rest _
      cases limit <;> exact .whole (Nat.zero_le _)
  | bool b =>
      intro limit rest _
      cases limit <;> cases b <;> exact .whole (Nat.zero_le _)
  | string s =>
      intro limit rest _
      have hread : readValue budget limit (chars (.string s) ++ rest)
          = ⟨.string (some s), some rest⟩ := by
        rw [chars, quoted, List.cons_append, List.cons_append, List.append_assoc,
          List.singleton_append, ← readString_quoted s rest]
        cases limit <;> rfl
      rw [hread]
      exact .whole (Nat.zero_le _)
  | @array items h ih =>
      intro limit rest hlen
      obtain ⟨hcount, hitem⟩ := budget_items hlen
      rw [chars, List.cons_append, List.cons_append, List.append_assoc, List.singleton_append]
      cases limit with
      | zero => exact .brokenOff (Nat.zero_lt_succ _) (.array (.here items))
      | succ limit =>
          have hitems := readItems_commaJoined rest
            (fun item hi rest => ih item hi limit rest (hitem item hi))
            (fun item hi => (h item hi).exists_first) hcount
          rw [readValue, skipBlanks_cons (by decide)]
          simp only
          generalize readItems _ _ _ _ = reading at hitems
          cases hitems with
          | whole hn => exact .whole (Nat.succ_le_succ hn)
          | brokenOff hn hd => exact .brokenOff (Nat.succ_lt_succ hn) (.array hd)
  | @object members h ih =>
      intro limit rest hlen
      obtain ⟨hcount, hvalue⟩ := budget_members hlen
      rw [chars, List.cons_append, List.cons_append, List.append_assoc, List.singleton_append]
      cases limit with
      | zero => exact .brokenOff (Nat.zero_lt_succ _) (.object (.here members))
      | succ limit =>
          have hmembers := readMembers_commaJoined rest
            (fun member hm rest => ih member hm limit rest (hvalue member hm)) hcount
          rw [readValue, skipBlanks_cons (by decide)]
          simp only
          generalize readMembers _ _ _ _ = reading at hmembers
          cases hmembers with
          | whole hn => exact .whole (Nat.succ_le_succ hn)
          | brokenOff hn hd => exact .brokenOff (Nat.succ_lt_succ hn) (.object hd)

end Json

/-- **The document of a written value.** It is the whole value when its nesting is within the limit,
    and breaks off inside the value otherwise; nothing follows it. -/
theorem Document.ofText_print {j : Json} (h : j.Numberless) :
    (Document.ofText j.print).ends = true ∧
      ((j.nesting ≤ Json.depthLimit ∧ (Document.ofText j.print).draft = .ofJson j) ∨
        (Json.depthLimit < j.nesting ∧ j.BreaksOff (Document.ofText j.print).draft)) := by
  have hread : Json.ReadAs j Json.depthLimit []
      (Json.readValue (j.chars.length + 1) Json.depthLimit (j.chars ++ [])) :=
    Json.readValue_chars h Json.depthLimit [] (Nat.le_succ _)
  rw [List.append_nil] at hread
  unfold Document.ofText
  rw [Json.print, String.toList_ofList]
  simp only
  generalize Json.readValue _ _ _ = reading at hread ⊢
  cases hread with
  | whole hn => exact ⟨rfl, Or.inl ⟨hn, rfl⟩⟩
  | brokenOff hn hd => exact ⟨rfl, Or.inr ⟨hn, hd⟩⟩

end RecordRules
