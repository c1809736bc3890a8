import StreamQueue.Json
import Mathlib

/-!
# The grammar of JSON

Which texts are JSON, and which value each of them denotes. This is said here without a reader, by the
forms that a text may have. Blanks may stand in front of a value and behind it. The items of an array
and the members of an object are given as a list with the text of each, and the text of the whole is
made of theirs with commas between them.

A number in front of further digits would be another number. So a number is only found again in front
of something that does not continue it (`Ends`).

## What is proved

* `scanString_append`, `body_of_scanString` — the reader of strings finds exactly what stands up to the
  closing quote.
* `readNumber_append`, `number_of_readNumber` — the reader of numbers takes a number, and all of it.
* `denotes_quote`, `denotes_objectText` — what is written denotes what was meant.
-/

namespace StreamQueue.Json

variable {cs rest : List Char} {c : Char}

/-! ### Strings -/

/-- The characters between the quotes of a string, and the parts that they stand for. -/
inductive Body : List Char → List Piece → Prop
  | empty : Body [] []
  | plain {c : Char} {cs : List Char} {pieces : List Piece} (quote : c ≠ '"') (escape : c ≠ '\\')
    (visible : 0x20 ≤ c.toNat) (more : Body cs pieces) : Body (c :: cs) (.char c :: pieces)
  | escaped {letter e : Char} {cs : List Char} {pieces : List Piece} (meant : escape? letter = some e)
    (more : Body cs pieces) : Body ('\\' :: letter :: cs) (.char e :: pieces)
  | numbered {a b c d : Char} {piece : Piece} {cs : List Char} {pieces : List Piece}
    (meant : unitPiece? a b c d = some piece) (more : Body cs pieces) :
    Body ('\\' :: 'u' :: a :: b :: c :: d :: cs) (piece :: pieces)

/-- A string in its quotes and its content, if it has one. -/
inductive Quoted : List Char → Option String → Prop
  | mk {cs : List Char} {pieces : List Piece} (body : Body cs pieces) :
    Quoted ('"' :: (cs ++ ['"'])) ((joinPieces pieces).map String.ofList)

theorem scanString_plain (quote : c ≠ '"') (escape : c ≠ '\\') (visible : 0x20 ≤ c.toNat) (cs : List Char) :
    scanString (c :: cs) = (scanString cs).map fun found => (.char c :: found.1, found.2) := by
  rw [scanString, if_neg (not_lt.2 visible), Option.map_eq_bind]
  · rfl
  · exact quote
  · intro a b c d rest same
    exact absurd same escape
  · intro d rest same
    exact absurd same escape

theorem scanString_escaped {letter e : Char} (meant : escape? letter = some e) (cs : List Char) :
    scanString ('\\' :: letter :: cs) = (scanString cs).map fun found => (.char e :: found.1, found.2) := by
  rw [scanString, meant, Option.map_eq_bind]
  · rfl
  · rintro a b c d rest rfl
    simp [escape?] at meant

theorem scanString_numbered {a b c d : Char} {piece : Piece} (meant : unitPiece? a b c d = some piece)
    (cs : List Char) : scanString ('\\' :: 'u' :: a :: b :: c :: d :: cs) =
      (scanString cs).map fun found => (piece :: found.1, found.2) := by
  rw [scanString, meant, Option.map_eq_bind]
  rfl

theorem scanString_append {pieces : List Piece} (body : Body cs pieces) (rest : List Char) :
    scanString (cs ++ '"' :: rest) = some (pieces, rest) := by
  induction body with
  | empty => rw [List.nil_append, scanString]
  | plain quote escape visible more ih =>
    rw [List.cons_append, scanString_plain quote escape visible, ih]
    rfl
  | escaped meant more ih =>
    rw [List.cons_append, List.cons_append, scanString_escaped meant, ih]
    rfl
  | numbered meant more ih =>
    simp only [List.cons_append]
    rw [scanString_numbered meant, ih]
    rfl

theorem body_of_scanString {pieces : List Piece} (scanned : scanString cs = some (pieces, rest)) :
    ∃ body, cs = body ++ '"' :: rest ∧ Body body pieces := by
  fun_induction scanString cs generalizing pieces rest with
  | case1 behind =>
    obtain ⟨rfl, rfl⟩ := Prod.mk.inj (Option.some.inj scanned)
    exact ⟨[], rfl, .empty⟩
  | case2 a b c d behind ih =>
    obtain ⟨piece, meant, scanned⟩ := Option.bind_eq_some_iff.1 scanned
    obtain ⟨⟨more, left⟩, found, same⟩ := Option.bind_eq_some_iff.1 scanned
    obtain ⟨rfl, rfl⟩ := Prod.mk.inj (Option.some.inj same)
    obtain ⟨body, rfl, parts⟩ := ih found
    exact ⟨_, rfl, .numbered meant parts⟩
  | case3 letter behind other ih =>
    obtain ⟨e, meant, scanned⟩ := Option.bind_eq_some_iff.1 scanned
    obtain ⟨⟨more, left⟩, found, same⟩ := Option.bind_eq_some_iff.1 scanned
    obtain ⟨rfl, rfl⟩ := Prod.mk.inj (Option.some.inj same)
    obtain ⟨body, rfl, parts⟩ := ih found
    exact ⟨_, rfl, .escaped meant parts⟩
  | case4 => exact absurd scanned (Option.some_ne_none _).symm
  | case5 c behind quote numbered letter visible ih =>
    obtain ⟨⟨more, left⟩, found, same⟩ := Option.bind_eq_some_iff.1 scanned
    obtain ⟨rfl, rfl⟩ := Prod.mk.inj (Option.some.inj same)
    obtain ⟨body, rfl, parts⟩ := ih found
    refine ⟨_, rfl, .plain quote (fun escape => ?_) (not_lt.1 visible) parts⟩
    -- A backslash that nothing follows is not read.
    cases body with
    | nil => exact letter _ _ escape rfl
    | cons b body => exact letter _ _ escape rfl
  | case6 => exact absurd scanned (Option.some_ne_none _).symm

theorem readString_append {content : Option String} {body : List Char} (quoted : Quoted ('"' :: body) content)
    (rest : List Char) : readString (body ++ rest) = some (content, rest) := by
  generalize text : '"' :: body = cs at quoted
  cases quoted with
  | mk parts =>
    obtain rfl := (List.cons.inj text).2
    rw [readString, List.append_assoc, List.singleton_append, scanString_append parts]
    rfl

theorem quoted_of_readString {content : Option String} (read : readString cs = some (content, rest)) :
    ∃ body, cs = body ++ rest ∧ Quoted ('"' :: body) content := by
  obtain ⟨⟨pieces, left⟩, scanned, same⟩ := Option.map_eq_some_iff.1 read
  obtain ⟨rfl, rfl⟩ := Prod.mk.inj same
  obtain ⟨body, rfl, parts⟩ := body_of_scanString scanned
  exact ⟨body ++ ['"'], by simp, .mk parts⟩

theorem Quoted.head {content : Option String} (quoted : Quoted cs content) : ∃ body, cs = '"' :: body := by
  cases quoted with
  | mk => exact ⟨_, rfl⟩

/-! ### Numbers -/

/-- One or more digits. -/
def Digits (cs : List Char) : Prop := cs ≠ [] ∧ ∀ c ∈ cs, c.isDigit

/-- The part of a number in front of the point: no zero stands in front of another digit. -/
inductive Whole : List Char → Prop
  | zero : Whole ['0']
  | other {d : Char} {ds : List Char} (first : d ≠ '0') (digits : Digits (d :: ds)) : Whole (d :: ds)

/-- The part of a number behind the point. -/
inductive Fraction : List Char → Prop
  | none : Fraction []
  | some {ds : List Char} (digits : Digits ds) : Fraction ('.' :: ds)

/-- The power of ten at the end of a number. -/
inductive Exponent : List Char → Prop
  | none : Exponent []
  | plain {e : Char} {ds : List Char} (letter : e = 'e' ∨ e = 'E') (digits : Digits ds) : Exponent (e :: ds)
  | signed {e sign : Char} {ds : List Char} (letter : e = 'e' ∨ e = 'E') (which : sign = '+' ∨ sign = '-')
    (digits : Digits ds) : Exponent (e :: sign :: ds)

/-- A number. -/
inductive Number : List Char → Prop
  | positive {whole fraction exponent : List Char} (before : Whole whole) (after : Fraction fraction)
    (power : Exponent exponent) : Number (whole ++ (fraction ++ exponent))
  | negative {whole fraction exponent : List Char} (before : Whole whole) (after : Fraction fraction)
    (power : Exponent exponent) : Number ('-' :: (whole ++ (fraction ++ exponent)))

/-- What does not continue a number. -/
def Ends (rest : List Char) : Prop := ∀ c ∈ rest.head?, ¬ (c.isDigit ∨ c = '.' ∨ c = 'e' ∨ c = 'E')

/-- Digits begin with nothing else. -/
theorem Digits.append_ne {ds : List Char} (digits : Digits ds) (rest : List Char) (other : ¬ c.isDigit)
    (left : List Char) : ds ++ rest ≠ c :: left := by
  obtain ⟨nonempty, each⟩ := digits
  cases ds with
  | nil => exact absurd rfl nonempty
  | cons d ds =>
    rintro same
    obtain rfl := (List.cons.inj same).1
    exact other (each _ List.mem_cons_self)

theorem dropWhile_of_ends (ends : Ends rest) : rest.dropWhile Char.isDigit = rest := by
  cases rest with
  | nil => rfl
  | cons c rest =>
    have other : ¬ c.isDigit := fun digit => ends c rfl (.inl digit)
    rw [List.dropWhile_cons_of_neg other]

/-- Digits are taken as far as they go. -/
theorem readDigits_append {ds : List Char} (digits : Digits ds) (rest : List Char) :
    readDigits (ds ++ rest) = some (rest.dropWhile Char.isDigit) := by
  obtain ⟨nonempty, each⟩ := digits
  cases ds with
  | nil => exact absurd rfl nonempty
  | cons d ds =>
    have more : ∀ c ∈ ds, c.isDigit := fun c mem => each c (List.mem_cons_of_mem d mem)
    rw [List.cons_append, readDigits, if_pos (each d List.mem_cons_self), List.dropWhile_append_of_pos more]

theorem digits_of_readDigits (read : readDigits cs = some rest) : ∃ ds, cs = ds ++ rest ∧ Digits ds := by
  cases cs with
  | nil => exact absurd read (Option.some_ne_none _).symm
  | cons d cs =>
    rw [readDigits] at read
    split at read
    case isTrue digit =>
      obtain rfl := Option.some.inj read
      refine ⟨d :: cs.takeWhile Char.isDigit, by simp, List.cons_ne_nil _ _, ?_⟩
      intro c mem
      rcases List.mem_cons.1 mem with rfl | mem
      · exact digit
      · exact List.mem_takeWhile_imp mem
    case isFalse => exact absurd read (Option.some_ne_none _).symm

/-- The part in front of the point is read in front of anything that adds no digit to it. -/
theorem readWhole_append {whole : List Char} (before : Whole whole)
    (ends : rest.dropWhile Char.isDigit = rest) : readWhole (whole ++ rest) = some rest := by
  cases before with
  | zero => rfl
  | @other d ds first digits =>
    have plain : readWhole (d :: ds ++ rest) = readDigits (d :: ds ++ rest) := by
      rw [List.cons_append, readWhole]
      rintro left same
      exact first (List.cons.inj same).1
    rw [plain, readDigits_append digits, ends]

theorem readFraction_append {fraction : List Char} (after : Fraction fraction)
    (ends : rest.dropWhile Char.isDigit = rest) (point : rest.head? ≠ some '.') :
    readFraction (fraction ++ rest) = some rest := by
  cases after with
  | none =>
    rw [List.nil_append, readFraction]
    rintro left rfl
    exact point rfl
  | some digits =>
    rw [List.cons_append, readFraction, readDigits_append digits, ends]

theorem readExponent_append {exponent : List Char} (power : Exponent exponent) (ends : Ends rest) :
    readExponent (exponent ++ rest) = some rest := by
  cases power with
  | none =>
    cases rest with
    | nil => rfl
    | cons c rest =>
      have small : c ≠ 'e' := fun same => ends c rfl (.inr (.inr (.inl same)))
      have large : c ≠ 'E' := fun same => ends c rfl (.inr (.inr (.inr same)))
      rw [List.nil_append, readExponent] <;> simp [small, large]
  | @plain e ds letter digits =>
    have plus : ∀ left, ds ++ rest ≠ '+' :: left := digits.append_ne rest (by decide)
    have minus : ∀ left, ds ++ rest ≠ '-' :: left := digits.append_ne rest (by decide)
    rw [List.cons_append]
    rcases letter with rfl | rfl
    · rw [readExponent, readDigits_append digits, dropWhile_of_ends ends]
      · exact plus
      · exact minus
    · rw [readExponent, readDigits_append digits, dropWhile_of_ends ends]
      · exact plus
      · exact minus
  | @signed e sign ds letter which digits =>
    rw [List.cons_append, List.cons_append]
    rcases letter with rfl | rfl <;> rcases which with rfl | rfl <;>
      rw [readExponent, readDigits_append digits, dropWhile_of_ends ends]

/-- What does not continue a number still does not when digits were dropped in front of it. -/
theorem ends_exponent {exponent : List Char} (power : Exponent exponent) (ends : Ends rest) :
    (exponent ++ rest).dropWhile Char.isDigit = exponent ++ rest ∧ (exponent ++ rest).head? ≠ some '.' := by
  have letter_other {e : Char} (letter : e = 'e' ∨ e = 'E') : ¬ e.isDigit ∧ e ≠ '.' := by
    rcases letter with rfl | rfl <;> decide
  cases power with
  | none => exact ⟨dropWhile_of_ends ends, fun point => ends '.' point (.inr (.inl rfl))⟩
  | plain letter =>
    obtain ⟨digit, point⟩ := letter_other letter
    simp [digit, point]
  | signed letter =>
    obtain ⟨digit, point⟩ := letter_other letter
    simp [digit, point]

theorem dropWhile_fraction {fraction : List Char} (after : Fraction fraction)
    (ends : rest.dropWhile Char.isDigit = rest) :
    (fraction ++ rest).dropWhile Char.isDigit = fraction ++ rest := by
  cases after with
  | none => exact ends
  | some => simp

/-- What is behind the sign is read in front of anything that does not continue it. -/
theorem readUnsigned_append {whole fraction exponent : List Char} (before : Whole whole)
    (after : Fraction fraction) (power : Exponent exponent) (ends : Ends rest) :
    (readWhole (whole ++ (fraction ++ exponent) ++ rest)).bind (fun cs => (readFraction cs).bind readExponent) =
      some rest := by
  obtain ⟨digits, point⟩ := ends_exponent power ends
  rw [List.append_assoc, List.append_assoc, readWhole_append before (dropWhile_fraction after digits),
    Option.bind_some, readFraction_append after digits point, Option.bind_some, readExponent_append power ends]

theorem readNumber_eq (cs : List Char) : readNumber cs =
    (readWhole (skipSign cs)).bind fun cs => (readFraction cs).bind readExponent := by
  simp only [readNumber, Option.bind_eq_bind]

theorem Whole.head {whole : List Char} (before : Whole whole) : ∃ d ds, whole = d :: ds ∧ d.isDigit := by
  cases before with
  | zero => exact ⟨'0', [], rfl, by decide⟩
  | other first digits => exact ⟨_, _, rfl, digits.2 _ List.mem_cons_self⟩

theorem skipSign_of_head (other : c ≠ '-') : skipSign (c :: cs) = c :: cs := by
  rw [skipSign]
  rintro left same
  exact other (List.cons.inj same).1

/-- **A number is read** in front of anything that does not continue it. -/
theorem readNumber_append (number : Number cs) (ends : Ends rest) : readNumber (cs ++ rest) = some rest := by
  rw [readNumber_eq]
  cases number with
  | positive before after power =>
    obtain ⟨d, ds, rfl, digit⟩ := before.head
    have other : d ≠ '-' := by
      rintro rfl
      exact absurd digit (by decide)
    have unsigned := readUnsigned_append before after power ends
    simp only [List.cons_append] at unsigned ⊢
    rw [skipSign_of_head other, unsigned]
  | negative before after power =>
    rw [List.cons_append, skipSign]
    exact readUnsigned_append before after power ends

theorem whole_of_readWhole (read : readWhole cs = some rest) : ∃ whole, cs = whole ++ rest ∧ Whole whole := by
  unfold readWhole at read
  split at read
  case h_1 =>
    obtain rfl := Option.some.inj read
    exact ⟨['0'], rfl, .zero⟩
  case h_2 zero =>
    obtain ⟨ds, rfl, digits⟩ := digits_of_readDigits read
    cases ds with
    | nil => exact absurd rfl digits.1
    | cons d ds =>
      refine ⟨d :: ds, rfl, .other ?_ digits⟩
      rintro rfl
      exact zero _ rfl

theorem fraction_of_readFraction (read : readFraction cs = some rest) :
    ∃ fraction, cs = fraction ++ rest ∧ Fraction fraction := by
  unfold readFraction at read
  split at read
  case h_1 =>
    obtain ⟨ds, rfl, digits⟩ := digits_of_readDigits read
    exact ⟨'.' :: ds, rfl, .some digits⟩
  case h_2 =>
    obtain rfl := Option.some.inj read
    exact ⟨[], rfl, .none⟩

theorem exponent_of_readExponent (read : readExponent cs = some rest) :
    ∃ exponent, cs = exponent ++ rest ∧ Exponent exponent := by
  unfold readExponent at read
  split at read
  case h_7 =>
    obtain rfl := Option.some.inj read
    exact ⟨[], rfl, .none⟩
  all_goals
    obtain ⟨ds, rfl, digits⟩ := digits_of_readDigits read
  case h_5 => exact ⟨'e' :: ds, rfl, .plain (.inl rfl) digits⟩
  case h_6 => exact ⟨'E' :: ds, rfl, .plain (.inr rfl) digits⟩
  case h_1 => exact ⟨'e' :: '+' :: ds, rfl, .signed (.inl rfl) (.inl rfl) digits⟩
  case h_2 => exact ⟨'e' :: '-' :: ds, rfl, .signed (.inl rfl) (.inr rfl) digits⟩
  case h_3 => exact ⟨'E' :: '+' :: ds, rfl, .signed (.inr rfl) (.inl rfl) digits⟩
  case h_4 => exact ⟨'E' :: '-' :: ds, rfl, .signed (.inr rfl) (.inr rfl) digits⟩

theorem skipSign_cases (cs : List Char) : cs = '-' :: skipSign cs ∨ cs = skipSign cs := by
  unfold skipSign
  split
  · exact .inl rfl
  · exact .inr rfl

/-- What is read as a number is one. -/
theorem number_of_readNumber (read : readNumber cs = some rest) : ∃ number, cs = number ++ rest ∧ Number number := by
  rw [readNumber_eq] at read
  obtain ⟨behind, readWhole_, read⟩ := Option.bind_eq_some_iff.1 read
  obtain ⟨left, readFraction_, readExponent_⟩ := Option.bind_eq_some_iff.1 read
  obtain ⟨whole, unsigned, before⟩ := whole_of_readWhole readWhole_
  obtain ⟨fraction, rfl, after⟩ := fraction_of_readFraction readFraction_
  obtain ⟨exponent, rfl, power⟩ := exponent_of_readExponent readExponent_
  rcases skipSign_cases cs with minus | plain
  · exact ⟨_, by rw [minus, unsigned]; simp, .negative before after power⟩
  · exact ⟨_, by rw [plain, unsigned]; simp, .positive before after power⟩

theorem Number.head (number : Number cs) : ∃ c more, cs = c :: more ∧ (c = '-' ∨ c.isDigit) := by
  cases number with
  | positive before =>
    obtain ⟨d, ds, rfl, digit⟩ := before.head
    exact ⟨d, _, rfl, .inr digit⟩
  | negative => exact ⟨'-', _, rfl, .inl rfl⟩

/-! ### Values -/

/-- Blanks only. -/
def Blank (cs : List Char) : Prop := ∀ c ∈ cs, isSpace c

/-- An item of an array, with its text. -/
structure Item where
  text : List Char
  value : Json

/-- A member of an object, with the texts of its key and its value. -/
structure Member where
  key : List Char
  name : Option String
  text : List Char
  value : Json

/-- The text of a member. -/
def Member.whole (m : Member) : List Char := m.key ++ ':' :: m.text

/-- A key with the blanks around it. -/
inductive Key : List Char → Option String → Prop
  | mk {before quoted after : List Char} {name : Option String} (blank : Blank before) (string : Quoted quoted name)
    (behind : Blank after) : Key (before ++ (quoted ++ after)) name

/-- The value that a text denotes. -/
inductive Denotes : List Char → Json → Prop
  | null : Denotes ['n', 'u', 'l', 'l'] .null
  | true : Denotes ['t', 'r', 'u', 'e'] (.bool true)
  | false : Denotes ['f', 'a', 'l', 's', 'e'] (.bool false)
  | number {cs : List Char} (number : Number cs) : Denotes cs .number
  | string {cs : List Char} {content : Option String} (quoted : Quoted cs content) : Denotes cs (.string content)
  | noItems {blanks : List Char} (blank : Blank blanks) : Denotes ('[' :: (blanks ++ [']'])) (.array [])
  | items {items : List Item} (nonempty : items ≠ []) (each : ∀ i ∈ items, Denotes i.text i.value) :
    Denotes ('[' :: ([','].intercalate (items.map Item.text) ++ [']'])) (.array (items.map Item.value))
  | noMembers {blanks : List Char} (blank : Blank blanks) : Denotes ('\x7b' :: (blanks ++ ['\x7d'])) (.object [])
  | members {members : List Member} (nonempty : members ≠ []) (keys : ∀ m ∈ members, Key m.key m.name)
    (each : ∀ m ∈ members, Denotes m.text m.value) :
    Denotes ('\x7b' :: ([','].intercalate (members.map Member.whole) ++ ['\x7d']))
      (.object (members.map fun m => (m.name, m.value)))
  | padded {before cs after : List Char} {value : Json} (blank : Blank before) (denotes : Denotes cs value)
    (behind : Blank after) : Denotes (before ++ (cs ++ after)) value

/-! ### Writing -/

/-- A control character is written by its number. -/
theorem unitPiece?_numberEscape : ∀ n < 0x20, unitPiece? '0' '0' ("0123456789abcdef".toList.getD (n / 16) '0')
    ("0123456789abcdef".toList.getD (n % 16) '0') = some (.char (Char.ofNat n)) := by
  decide

/-- A character is written as what stands for it. -/
theorem body_quoteChar (c : Char) {pieces : List Piece} (more : Body cs pieces) :
    Body (quoteChar c ++ cs) (.char c :: pieces) := by
  unfold quoteChar
  split_ifs with quote escape newline carriage tab backspace feed control
  case pos => subst quote; exact .escaped rfl more
  case pos => subst escape; exact .escaped rfl more
  case pos => subst newline; exact .escaped rfl more
  case pos => subst carriage; exact .escaped rfl more
  case pos => subst tab; exact .escaped rfl more
  case pos => subst backspace; exact .escaped rfl more
  case pos => subst feed; exact .escaped rfl more
  case pos =>
    have meant := unitPiece?_numberEscape c.toNat control
    rw [Char.ofNat_toNat] at meant
    exact .numbered meant more
  case neg => exact .plain quote escape (not_lt.1 control) more

theorem body_flatMap_quoteChar (cs : List Char) : Body (cs.flatMap quoteChar) (cs.map .char) := by
  induction cs with
  | nil => exact .empty
  | cons c cs ih => exact body_quoteChar c ih

theorem joinPieces_map_char (cs : List Char) : joinPieces (cs.map .char) = some cs := by
  induction cs with
  | nil => rfl
  | cons c cs ih => rw [List.map_cons, joinPieces, ih, Option.map_some]

theorem quoted_quote (s : String) : Quoted (quote s).toList (some s) := by
  have written := Quoted.mk (body_flatMap_quoteChar s.toList)
  rw [joinPieces_map_char, Option.map_some, String.ofList_toList] at written
  simpa [quote] using written

/-- **A string** as it is written. -/
theorem denotes_quote (s : String) : Denotes (quote s).toList (.string (some s)) := .string (quoted_quote s)

/-- A member with its key as it is written. -/
def Member.written (name : String) (text : String) (value : Json) : Member :=
  ⟨(quote name).toList, some name, text.toList, value⟩

/-- **An object** as it is written, if the texts of its members denote their values. -/
theorem denotes_objectText {members : List (String × String × Json)}
    (each : ∀ m ∈ members, Denotes m.2.1.toList m.2.2) :
    Denotes (objectText (members.map fun m => (m.1, m.2.1))).toList
      (.object (members.map fun m => (some m.1, m.2.2))) := by
  let written := members.map fun m => Member.written m.1 m.2.1 m.2.2
  have nothing : Blank [] := fun c mem => absurd mem List.not_mem_nil
  have text : (objectText (members.map fun m => (m.1, m.2.1))).toList =
      '\x7b' :: ([','].intercalate (written.map Member.whole) ++ ['\x7d']) := by
    simp [written, objectText, String.toList_intercalate, Function.comp_def, Member.whole, Member.written]
  have values : (members.map fun m => (some m.1, m.2.2)) = written.map fun m => (m.name, m.value) := by
    simp [written, Member.written]
  rw [text, values]
  by_cases empty : members = []
  · subst empty
    exact .noMembers nothing
  · refine .members (by simpa [written] using empty) ?keys ?each
    case keys =>
      intro m mem
      obtain ⟨m, -, rfl⟩ := List.mem_map.1 mem
      have bare := Key.mk nothing (quoted_quote m.1) nothing
      simpa [Member.written] using bare
    case each =>
      intro m mem
      obtain ⟨m, there, rfl⟩ := List.mem_map.1 mem
      exact each m there

end StreamQueue.Json
