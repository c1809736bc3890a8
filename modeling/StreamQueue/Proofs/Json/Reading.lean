import StreamQueue.Proofs.Json.Grammar

/-!
# Reading JSON

The reader goes through a text once, and every value, item and member takes one unit from the depth
that it was given. It accepts exactly the texts of the grammar. One half is that a text that denotes a
value is read, wherever it stands and with twice its length for a depth, up to blanks that are left
behind it (`Readable`). The other is that whatever was read denotes what was found (`Sound`).

## What is proved

* `readable_of_denotes` — a text is read as what it denotes, in front of anything that does not
  continue it.
* `sound` — what is read at any depth denotes what is found.
* `parse?_eq_some_iff` — the two together, for a whole text.
-/

namespace StreamQueue.Json

variable {cs rest : List Char} {value : Json} {depth : Nat}

/-! ### Blanks -/

theorem skipSpace_append {blanks : List Char} (blank : Blank blanks) (rest : List Char) :
    skipSpace (blanks ++ rest) = skipSpace rest := by
  rw [skipSpace, skipSpace, List.dropWhile_append_of_pos blank]

theorem skipSpace_skipSpace (cs : List Char) : skipSpace (skipSpace cs) = skipSpace cs := by
  rw [skipSpace, skipSpace, List.dropWhile_idempotent]

theorem skipSpace_cons {c : Char} (visible : isSpace c = false) (cs : List Char) :
    skipSpace (c :: cs) = c :: cs := by
  rw [skipSpace, List.dropWhile_cons_of_neg (by simp [visible])]

/-- What is skipped is blank. -/
theorem exists_skipped (cs : List Char) : ∃ blanks, Blank blanks ∧ cs = blanks ++ skipSpace cs :=
  ⟨cs.takeWhile isSpace, fun _ => List.mem_takeWhile_imp, (List.takeWhile_append_dropWhile).symm⟩

/-- Blanks in front of a value, of its items and of its members are passed over. -/
theorem readValue_skipSpace (depth : Nat) (cs : List Char) : readValue depth (skipSpace cs) = readValue depth cs := by
  cases depth with
  | zero => rfl
  | succ depth => simp only [readValue, skipSpace_skipSpace]

theorem readItems_skipSpace (depth : Nat) (cs : List Char) : readItems depth (skipSpace cs) = readItems depth cs := by
  cases depth with
  | zero => rfl
  | succ depth => simp only [readItems, readValue_skipSpace]

theorem readMembers_skipSpace (depth : Nat) (cs : List Char) :
    readMembers depth (skipSpace cs) = readMembers depth cs := by
  cases depth with
  | zero => rfl
  | succ depth => simp only [readMembers, skipSpace_skipSpace]

/-! ### What the grammar has is read -/

/-- A text that is read as a value with twice its length for a depth, up to blanks behind it. -/
def Readable (cs : List Char) (value : Json) : Prop :=
  ∀ depth rest, 2 * cs.length ≤ depth → Ends rest →
    ∃ left, readValue depth (cs ++ rest) = some (value, left) ∧ skipSpace left = skipSpace rest

theorem ends_cons {c : Char} (other : ¬ (c.isDigit ∨ c = '.' ∨ c = 'e' ∨ c = 'E')) (rest : List Char) :
    Ends (c :: rest) := by
  intro d head
  obtain rfl := Option.some.inj head
  exact other

theorem ends_append {blanks : List Char} (blank : Blank blanks) (ends : Ends rest) : Ends (blanks ++ rest) := by
  cases blanks with
  | nil => exact ends
  | cons c blanks =>
    have space := blank c List.mem_cons_self
    refine ends_cons ?_ _
    simp only [isSpace, Bool.or_eq_true, beq_iff_eq] at space
    rcases space with ((rfl | rfl) | rfl) | rfl <;> decide

theorem readable_padded {before after : List Char} (blank : Blank before) (readable : Readable cs value)
    (behind : Blank after) : Readable (before ++ (cs ++ after)) value := by
  intro depth rest enough ends
  simp only [List.length_append] at enough
  obtain ⟨left, read, same⟩ := readable depth (after ++ rest) (by omega) (ends_append behind ends)
  refine ⟨left, ?_, same.trans (skipSpace_append behind rest)⟩
  rw [← readValue_skipSpace, List.append_assoc, List.append_assoc, skipSpace_append blank, readValue_skipSpace, read]

/-- A number does not begin like another value. -/
theorem readValue_number {c : Char} (first : c = '-' ∨ c.isDigit) (cs : List Char) :
    readValue (depth + 1) (c :: cs) = (readNumber (c :: cs)).map fun rest => (.number, rest) := by
  have visible : isSpace c = false := by
    rcases first with rfl | digit
    · rfl
    · rw [Bool.eq_false_iff]
      intro space
      simp only [isSpace, Bool.or_eq_true, beq_iff_eq] at space
      rcases space with ((rfl | rfl) | rfl) | rfl <;> exact absurd digit (by decide)
  have other {d : Char} {more : List Char} (same : c :: cs = d :: more) : d = '-' ∨ d.isDigit :=
    (List.cons.inj same).1 ▸ first
  rw [readValue, skipSpace_cons visible]
  split
  case h_7 => rfl
  all_goals
    rename_i same
    exact absurd (other same) (by decide)

theorem readable_number (number : Number cs) : Readable cs .number := by
  intro depth rest enough ends
  obtain ⟨c, more, rfl, first⟩ := number.head
  obtain ⟨depth, rfl⟩ : ∃ d, depth = d + 1 := Nat.exists_eq_add_one.2 (by simp at enough; omega)
  have read := readNumber_append number ends
  rw [List.cons_append] at read ⊢
  exact ⟨rest, by rw [readValue_number first, read, Option.map_some], rfl⟩

theorem readable_string {content : Option String} (quoted : Quoted cs content) : Readable cs (.string content) := by
  intro depth rest enough ends
  obtain ⟨body, rfl⟩ := quoted.head
  obtain ⟨depth, rfl⟩ : ∃ d, depth = d + 1 := Nat.exists_eq_add_one.2 (by simp at enough; omega)
  refine ⟨rest, ?_, rfl⟩
  rw [List.cons_append, readValue, skipSpace_cons rfl]
  simp [readString_append quoted]

/-- Texts with commas between them. -/
theorem joined_cons {texts : List (List Char)} (more : texts ≠ []) (text : List Char) :
    [','].intercalate (text :: texts) = text ++ ',' :: [','].intercalate texts := by
  rw [List.intercalate_cons_of_ne_nil more, List.append_assoc, List.singleton_append]

theorem readItems_append {items : List Item} (nonempty : items ≠ [])
    (each : ∀ i ∈ items, Readable i.text i.value)
    (enough : 2 * ([','].intercalate (items.map Item.text)).length + 1 ≤ depth) (rest : List Char) :
    readItems depth ([','].intercalate (items.map Item.text) ++ ']' :: rest) =
      some (items.map Item.value, rest) := by
  induction items generalizing depth with
  | nil => exact absurd rfl nonempty
  | cons item items ih =>
    obtain ⟨depth, rfl⟩ : ∃ d, depth = d + 1 := Nat.exists_eq_add_one.2 (by omega)
    have first := each item List.mem_cons_self
    by_cases last : items = []
    · subst last
      simp only [List.map_cons, List.map_nil, List.intercalate_singleton] at enough ⊢
      obtain ⟨left, read, same⟩ := first depth (']' :: rest) (by omega) (ends_cons (by decide) rest)
      rw [skipSpace_cons rfl] at same
      rw [readItems, read]
      simp [same]
    · have more : items.map Item.text ≠ [] := by simpa using last
      simp only [List.map_cons, joined_cons more, List.length_append, List.length_cons, List.append_assoc,
        List.cons_append] at enough ⊢
      have others := ih last (fun i mem => each i (List.mem_cons_of_mem item mem))
        (by omega : 2 * ([','].intercalate (items.map Item.text)).length + 1 ≤ depth)
      obtain ⟨left, read, same⟩ := first depth (',' :: ([','].intercalate (items.map Item.text) ++ ']' :: rest))
        (by omega) (ends_cons (by decide) _)
      rw [skipSpace_cons rfl] at same
      rw [readItems, read]
      simp [same, others]

/-- What ends an array does not begin a value. -/
theorem readValue_close (depth : Nat) (cs : List Char) : readValue depth (']' :: cs) = none := by
  cases depth <;> rfl

theorem readItems_close (depth : Nat) (cs : List Char) : readItems depth (']' :: cs) = none := by
  cases depth with
  | zero => rfl
  | succ depth =>
    rw [readItems, readValue_close]
    rfl

theorem readable_items {items : List Item} (nonempty : items ≠ [])
    (each : ∀ i ∈ items, Readable i.text i.value) :
    Readable ('[' :: ([','].intercalate (items.map Item.text) ++ [']'])) (.array (items.map Item.value)) := by
  intro depth rest enough ends
  simp only [List.length_cons, List.length_append, List.length_nil] at enough
  obtain ⟨depth, rfl⟩ : ∃ d, depth = d + 1 := Nat.exists_eq_add_one.2 (by omega)
  have read := readItems_append nonempty each (by omega : _ ≤ depth) rest
  rw [← readItems_skipSpace] at read
  refine ⟨rest, ?_, rfl⟩
  simp only [List.cons_append, List.append_assoc, List.nil_append]
  rw [readValue, skipSpace_cons rfl]
  simp only []
  split
  case h_1 close =>
    rw [close, readItems_close] at read
    exact absurd read (Option.some_ne_none _).symm
  case h_2 => rw [read, Option.map_some]

theorem readable_noItems {blanks : List Char} (blank : Blank blanks) :
    Readable ('[' :: (blanks ++ [']'])) (.array []) := by
  intro depth rest enough ends
  obtain ⟨depth, rfl⟩ : ∃ d, depth = d + 1 := Nat.exists_eq_add_one.2 (by simp at enough; omega)
  have close : skipSpace (blanks ++ ']' :: rest) = ']' :: rest :=
    (skipSpace_append blank _).trans (skipSpace_cons rfl rest)
  refine ⟨rest, ?_, rfl⟩
  simp only [List.cons_append, List.append_assoc, List.nil_append]
  rw [readValue, skipSpace_cons rfl]
  simp [close]

theorem Key.parts {name : Option String} (key : Key cs name) : ∃ before body after,
    cs = before ++ ('"' :: body ++ after) ∧ Blank before ∧ Quoted ('"' :: body) name ∧ Blank after := by
  cases key with
  | mk blank string behind =>
    obtain ⟨body, rfl⟩ := string.head
    exact ⟨_, body, _, rfl, blank, string, behind⟩

/-- A member is read part by part: its key, the colon and its value. -/
theorem parts_of_member {m : Member} (key : Key m.key m.name) (readable : Readable m.text m.value)
    (enough : 2 * m.whole.length ≤ depth) (ends : Ends rest) :
    ∃ quoted colon text left, skipSpace (m.whole ++ rest) = '"' :: quoted ∧
      readString quoted = some (m.name, colon) ∧ skipSpace colon = ':' :: text ∧
      readValue depth text = some (m.value, left) ∧ skipSpace left = skipSpace rest := by
  obtain ⟨before, body, after, whole, blank, string, behind⟩ := key.parts
  simp only [Member.whole, whole, List.length_append, List.length_cons] at enough
  obtain ⟨left, read, same⟩ := readable depth rest (by omega) ends
  refine ⟨body ++ (after ++ ':' :: (m.text ++ rest)), after ++ ':' :: (m.text ++ rest), m.text ++ rest, left,
    ?_, readString_append string _, ?_, read, same⟩
  · simp only [Member.whole, whole, List.append_assoc, List.cons_append]
    rw [skipSpace_append blank, skipSpace_cons rfl]
  · rw [skipSpace_append behind, skipSpace_cons rfl]

theorem readMembers_last {m : Member} (key : Key m.key m.name) (readable : Readable m.text m.value)
    (enough : 2 * m.whole.length ≤ depth) (rest : List Char) :
    readMembers (depth + 1) (m.whole ++ '\x7d' :: rest) = some ([(m.name, m.value)], rest) := by
  obtain ⟨quoted, colon, text, left, opened, name, between, read, same⟩ :=
    parts_of_member key readable enough (ends_cons (c := '\x7d') (by decide) rest)
  rw [skipSpace_cons (c := '\x7d') rfl] at same
  rw [readMembers, opened]
  simp [name, between, read, same]

theorem readMembers_more {m : Member} (key : Key m.key m.name) (readable : Readable m.text m.value)
    (enough : 2 * m.whole.length ≤ depth) (rest : List Char) :
    readMembers (depth + 1) (m.whole ++ ',' :: rest) =
      (readMembers depth rest).map fun found => ((m.name, m.value) :: found.1, found.2) := by
  obtain ⟨quoted, colon, text, left, opened, name, between, read, same⟩ :=
    parts_of_member key readable enough (ends_cons (c := ',') (by decide) rest)
  rw [skipSpace_cons (c := ',') rfl] at same
  rw [readMembers, opened, Option.map_eq_bind]
  simp [name, between, read, same]

theorem readMembers_append {members : List Member} (nonempty : members ≠ [])
    (keys : ∀ m ∈ members, Key m.key m.name) (each : ∀ m ∈ members, Readable m.text m.value)
    (enough : 2 * ([','].intercalate (members.map Member.whole)).length + 1 ≤ depth) (rest : List Char) :
    readMembers depth ([','].intercalate (members.map Member.whole) ++ '\x7d' :: rest) =
      some (members.map fun m => (m.name, m.value), rest) := by
  induction members generalizing depth with
  | nil => exact absurd rfl nonempty
  | cons m members ih =>
    obtain ⟨depth, rfl⟩ : ∃ d, depth = d + 1 := Nat.exists_eq_add_one.2 (by omega)
    have key := keys m List.mem_cons_self
    have first := each m List.mem_cons_self
    by_cases last : members = []
    · subst last
      simp only [List.map_cons, List.map_nil, List.intercalate_singleton] at enough ⊢
      exact readMembers_last key first (by omega) rest
    · have more : members.map Member.whole ≠ [] := by simpa using last
      simp only [List.map_cons, joined_cons more, List.length_append, List.length_cons, List.append_assoc,
        List.cons_append] at enough ⊢
      have others := ih last (fun m' mem => keys m' (List.mem_cons_of_mem m mem))
        (fun m' mem => each m' (List.mem_cons_of_mem m mem))
        (by omega : 2 * ([','].intercalate (members.map Member.whole)).length + 1 ≤ depth)
      rw [readMembers_more key first (by omega), others, Option.map_some]

theorem readMembers_close (depth : Nat) (cs : List Char) : readMembers depth ('\x7d' :: cs) = none := by
  cases depth <;> rfl

theorem readable_members {members : List Member} (nonempty : members ≠ [])
    (keys : ∀ m ∈ members, Key m.key m.name) (each : ∀ m ∈ members, Readable m.text m.value) :
    Readable ('\x7b' :: ([','].intercalate (members.map Member.whole) ++ ['\x7d']))
      (.object (members.map fun m => (m.name, m.value))) := by
  intro depth rest enough ends
  simp only [List.length_cons, List.length_append, List.length_nil] at enough
  obtain ⟨depth, rfl⟩ : ∃ d, depth = d + 1 := Nat.exists_eq_add_one.2 (by omega)
  have read := readMembers_append nonempty keys each (by omega : _ ≤ depth) rest
  rw [← readMembers_skipSpace] at read
  refine ⟨rest, ?_, rfl⟩
  simp only [List.cons_append, List.append_assoc, List.nil_append]
  rw [readValue, skipSpace_cons rfl]
  simp only []
  split
  case h_1 close =>
    rw [close, readMembers_close] at read
    exact absurd read (Option.some_ne_none _).symm
  case h_2 => rw [read, Option.map_some]

theorem readable_noMembers {blanks : List Char} (blank : Blank blanks) :
    Readable ('\x7b' :: (blanks ++ ['\x7d'])) (.object []) := by
  intro depth rest enough ends
  obtain ⟨depth, rfl⟩ : ∃ d, depth = d + 1 := Nat.exists_eq_add_one.2 (by simp at enough; omega)
  have close : skipSpace (blanks ++ '\x7d' :: rest) = '\x7d' :: rest :=
    (skipSpace_append blank _).trans (skipSpace_cons rfl rest)
  refine ⟨rest, ?_, rfl⟩
  simp only [List.cons_append, List.append_assoc, List.nil_append]
  rw [readValue, skipSpace_cons rfl]
  simp [close]

/-- **A text that denotes a value is read as it.** -/
theorem readable_of_denotes (denotes : Denotes cs value) : Readable cs value := by
  induction denotes with
  | null =>
    intro depth rest enough ends
    obtain ⟨depth, rfl⟩ : ∃ d, depth = d + 1 := Nat.exists_eq_add_one.2 (by simp at enough; omega)
    exact ⟨rest, rfl, rfl⟩
  | true =>
    intro depth rest enough ends
    obtain ⟨depth, rfl⟩ : ∃ d, depth = d + 1 := Nat.exists_eq_add_one.2 (by simp at enough; omega)
    exact ⟨rest, rfl, rfl⟩
  | false =>
    intro depth rest enough ends
    obtain ⟨depth, rfl⟩ : ∃ d, depth = d + 1 := Nat.exists_eq_add_one.2 (by simp at enough; omega)
    exact ⟨rest, rfl, rfl⟩
  | number number => exact readable_number number
  | string quoted => exact readable_string quoted
  | noItems blank => exact readable_noItems blank
  | items nonempty _ each => exact readable_items nonempty each
  | noMembers blank => exact readable_noMembers blank
  | members nonempty keys _ each => exact readable_members nonempty keys each
  | padded blank _ behind readable => exact readable_padded blank readable behind

/-! ### What is read is of the grammar -/

/-- Whatever is read at a depth denotes what is found. -/
def Sound (depth : Nat) : Prop :=
  ∀ cs value rest, readValue depth cs = some (value, rest) → ∃ text, cs = text ++ rest ∧ Denotes text value

theorem blank_nil : Blank [] := fun _ mem => absurd mem List.not_mem_nil

theorem Denotes.before {blanks : List Char} (blank : Blank blanks) (denotes : Denotes cs value) :
    Denotes (blanks ++ cs) value := by
  simpa using Denotes.padded blank denotes blank_nil

theorem Denotes.behind {blanks : List Char} (denotes : Denotes cs value) (blank : Blank blanks) :
    Denotes (cs ++ blanks) value := Denotes.padded blank_nil denotes blank

/-- What stands in front of the character at which the reader looks is blank. -/
theorem exists_blanks {c : Char} (same : skipSpace cs = c :: rest) :
    ∃ blanks, Blank blanks ∧ cs = blanks ++ c :: rest := by
  obtain ⟨blanks, blank, parts⟩ := exists_skipped cs
  exact ⟨blanks, blank, by rw [parts, same]⟩

theorem items_of_read (values : ∀ d < depth, Sound d) {items : List Json}
    (read : readItems depth cs = some (items, rest)) :
    ∃ found : List Item, found ≠ [] ∧ (∀ i ∈ found, Denotes i.text i.value) ∧
      found.map Item.value = items ∧ cs = [','].intercalate (found.map Item.text) ++ ']' :: rest := by
  induction depth generalizing cs items with
  | zero => exact absurd read (Option.some_ne_none _).symm
  | succ depth ih =>
    rw [readItems] at read
    obtain ⟨⟨item, left⟩, first, more⟩ := Option.bind_eq_some_iff.1 read
    obtain ⟨text, rfl, denotes⟩ := values depth (Nat.lt_succ_self depth) cs item left first
    dsimp only at more
    split at more
    case h_1 comma =>
      obtain ⟨⟨others, left'⟩, behind, same⟩ := Option.bind_eq_some_iff.1 more
      obtain ⟨rfl, rfl⟩ := Prod.mk.inj (Option.some.inj same)
      obtain ⟨found, nonempty, each, rfl, rfl⟩ := ih (fun d below => values d (Nat.lt_succ_of_lt below)) behind
      obtain ⟨blanks, blank, rfl⟩ := exists_blanks comma
      refine ⟨⟨text ++ blanks, item⟩ :: found, List.cons_ne_nil _ _, ?_, rfl, ?_⟩
      · exact List.forall_mem_cons.2 ⟨denotes.behind blank, each⟩
      · rw [List.map_cons, joined_cons (by simpa using nonempty)]
        simp
    case h_2 close =>
      obtain ⟨rfl, rfl⟩ := Prod.mk.inj (Option.some.inj more)
      obtain ⟨blanks, blank, rfl⟩ := exists_blanks close
      refine ⟨[⟨text ++ blanks, item⟩], List.cons_ne_nil _ _, ?_, rfl, by simp⟩
      exact List.forall_mem_singleton.2 (denotes.behind blank)
    case h_3 => exact absurd more (Option.some_ne_none _).symm

theorem members_of_read (values : ∀ d < depth, Sound d) {members : List (Option String × Json)}
    (read : readMembers depth cs = some (members, rest)) :
    ∃ found : List Member, found ≠ [] ∧ (∀ m ∈ found, Key m.key m.name) ∧ (∀ m ∈ found, Denotes m.text m.value) ∧
      found.map (fun m => (m.name, m.value)) = members ∧
      cs = [','].intercalate (found.map Member.whole) ++ '\x7d' :: rest := by
  induction depth generalizing cs members with
  | zero => exact absurd read (Option.some_ne_none _).symm
  | succ depth ih =>
    rw [readMembers] at read
    split at read
    case h_2 => exact absurd read (Option.some_ne_none _).symm
    case h_1 quoted opened =>
    obtain ⟨before, blank, rfl⟩ := exists_blanks opened
    obtain ⟨⟨name, left⟩, readName, behindName⟩ := Option.bind_eq_some_iff.1 read
    obtain ⟨body, rfl, string⟩ := quoted_of_readString readName
    dsimp only at behindName
    split at behindName
    case h_2 => exact absurd behindName (Option.some_ne_none _).symm
    case h_1 colon between =>
    obtain ⟨after, blank', rfl⟩ := exists_blanks between
    have key := Key.mk blank string blank'
    obtain ⟨⟨value, left⟩, first, more⟩ := Option.bind_eq_some_iff.1 behindName
    obtain ⟨text, rfl, denotes⟩ := values depth (Nat.lt_succ_self depth) colon value left first
    dsimp only at more
    split at more
    case h_1 comma =>
      obtain ⟨⟨others, left'⟩, behind, same⟩ := Option.bind_eq_some_iff.1 more
      obtain ⟨rfl, rfl⟩ := Prod.mk.inj (Option.some.inj same)
      obtain ⟨found, nonempty, keys, each, rfl, rfl⟩ := ih (fun d below => values d (Nat.lt_succ_of_lt below)) behind
      obtain ⟨blanks, blank, rfl⟩ := exists_blanks comma
      refine ⟨⟨before ++ ('"' :: body ++ after), name, text ++ blanks, value⟩ :: found,
        List.cons_ne_nil _ _, ?_, ?_, rfl, ?_⟩
      · exact List.forall_mem_cons.2 ⟨key, keys⟩
      · exact List.forall_mem_cons.2 ⟨denotes.behind blank, each⟩
      · rw [List.map_cons, joined_cons (by simpa using nonempty)]
        simp [Member.whole]
    case h_2 close =>
      obtain ⟨rfl, rfl⟩ := Prod.mk.inj (Option.some.inj more)
      obtain ⟨blanks, blank, rfl⟩ := exists_blanks close
      refine ⟨[⟨before ++ ('"' :: body ++ after), name, text ++ blanks, value⟩],
        List.cons_ne_nil _ _, ?_, ?_, rfl, by simp [Member.whole]⟩
      · exact List.forall_mem_singleton.2 key
      · exact List.forall_mem_singleton.2 (denotes.behind blank)
    case h_3 => exact absurd more (Option.some_ne_none _).symm

/-- **What is read denotes what is found.** -/
theorem sound (depth : Nat) : Sound depth := by
  induction depth using Nat.strong_induction_on with
  | _ depth values =>
  intro cs value rest read
  cases depth with
  | zero => exact absurd read (Option.some_ne_none _).symm
  | succ depth =>
    have deeper : ∀ d < depth, Sound d := fun d below => values d (Nat.lt_succ_of_lt below)
    obtain ⟨blanks, blank, parts⟩ := exists_skipped cs
    -- It is enough to look behind the blanks.
    suffices found : ∃ text, skipSpace cs = text ++ rest ∧ Denotes text value by
      obtain ⟨text, same, denotes⟩ := found
      exact ⟨blanks ++ text, by rw [parts, same, List.append_assoc], denotes.before blank⟩
    rw [readValue] at read
    generalize skipSpace cs = visible at read
    split at read
    case h_1 =>
      obtain ⟨rfl, rfl⟩ := Prod.mk.inj (Option.some.inj read)
      exact ⟨_, rfl, .null⟩
    case h_2 =>
      obtain ⟨rfl, rfl⟩ := Prod.mk.inj (Option.some.inj read)
      exact ⟨_, rfl, .true⟩
    case h_3 =>
      obtain ⟨rfl, rfl⟩ := Prod.mk.inj (Option.some.inj read)
      exact ⟨_, rfl, .false⟩
    case h_4 quoted =>
      obtain ⟨⟨content, left⟩, readContent, same⟩ := Option.map_eq_some_iff.1 read
      obtain ⟨rfl, rfl⟩ := Prod.mk.inj same
      obtain ⟨body, rfl, string⟩ := quoted_of_readString readContent
      exact ⟨_, rfl, .string string⟩
    case h_5 inside =>
      split at read
      case h_1 close =>
        obtain ⟨rfl, rfl⟩ := Prod.mk.inj (Option.some.inj read)
        obtain ⟨blanks, blank, rfl⟩ := exists_blanks close
        exact ⟨_, by simp, .noItems blank⟩
      case h_2 =>
        rw [readItems_skipSpace] at read
        obtain ⟨⟨items, left⟩, behind, same⟩ := Option.map_eq_some_iff.1 read
        obtain ⟨rfl, rfl⟩ := Prod.mk.inj same
        obtain ⟨found, nonempty, each, rfl, rfl⟩ := items_of_read deeper behind
        exact ⟨_, by simp, .items nonempty each⟩
    case h_6 inside =>
      split at read
      case h_1 close =>
        obtain ⟨rfl, rfl⟩ := Prod.mk.inj (Option.some.inj read)
        obtain ⟨blanks, blank, rfl⟩ := exists_blanks close
        exact ⟨_, by simp, .noMembers blank⟩
      case h_2 =>
        rw [readMembers_skipSpace] at read
        obtain ⟨⟨members, left⟩, behind, same⟩ := Option.map_eq_some_iff.1 read
        obtain ⟨rfl, rfl⟩ := Prod.mk.inj same
        obtain ⟨found, nonempty, keys, each, rfl, rfl⟩ := members_of_read deeper behind
        exact ⟨_, by simp, .members nonempty keys each⟩
    case h_7 =>
      obtain ⟨left, readAll, same⟩ := Option.map_eq_some_iff.1 read
      obtain ⟨rfl, rfl⟩ := Prod.mk.inj same
      obtain ⟨text, rfl, number⟩ := number_of_readNumber readAll
      exact ⟨text, rfl, .number number⟩

/-! ### Whole texts -/

/-- **Reading**: a text is read as a value exactly if it denotes it. -/
theorem parse?_eq_some_iff {text : String} : parse? text = some value ↔ Denotes text.toList value := by
  constructor
  · intro read
    unfold parse? at read
    split at read
    case h_2 => exact absurd read (Option.some_ne_none _).symm
    case h_1 found rest first =>
      split at read
      case isFalse => exact absurd read (Option.some_ne_none _).symm
      case isTrue ended =>
        obtain rfl := Option.some.inj read
        obtain ⟨whole, parts, denotes⟩ := sound _ _ _ _ first
        obtain ⟨blanks, blank, left⟩ := exists_skipped rest
        rw [List.isEmpty_iff.1 ended, List.append_nil] at left
        rw [parts, left]
        exact denotes.behind blank
  · intro denotes
    have nothing : Ends [] := fun c head => absurd head (by simp)
    obtain ⟨left, read, same⟩ := readable_of_denotes denotes (2 * text.length + 2) []
      (by rw [String.length_toList]; omega) nothing
    rw [List.append_nil] at read
    rw [parse?, read]
    simp only
    rw [same, skipSpace, List.dropWhile_nil, List.isEmpty_nil, if_pos rfl]

/-- A text denotes one value. -/
theorem Denotes.unique {other : Json} (one : Denotes cs value) (two : Denotes cs other) : value = other := by
  have text : (String.ofList cs).toList = cs := String.toList_ofList
  rw [← text, ← parse?_eq_some_iff] at one two
  exact Option.some.inj (one.symm.trans two)

end StreamQueue.Json
