import GeoTrack.JsonText

/-!
# Where a quoted word occurs in a JSON text

White space and punctuation separate the strings of a JSON text, and nothing
else in it contains a quote.  A word with a quote in it and without separators
therefore occurs in a text exactly if it occurs in one of its strings, taken
with the quotes around it.
-/

namespace JsonText

/-- A string of the value, as a key or as a value, at any depth. -/
inductive Spells : Value → List UInt8 → Prop where
  | string (content : List UInt8) : Spells (.string content) content
  | item {items : List Value} {value : Value} {content : List UInt8} (listed : value ∈ items)
      (spells : Spells value content) : Spells (.array items) content
  | key {members : List (List UInt8 × Value)} {member : List UInt8 × Value}
      (listed : member ∈ members) : Spells (.object members) member.1
  | member {members : List (List UInt8 × Value)} {member : List UInt8 × Value}
      {content : List UInt8} (listed : member ∈ members) (spells : Spells member.2 content) :
      Spells (.object members) content

/-- White space or punctuation. -/
def isSeparator (byte : UInt8) : Bool :=
  isSpace byte || byte = comma || byte = colon || byte = openBracket || byte = closeBracket ||
    byte = openBrace || byte = closeBrace

/-- The word has a quote in it and no separator. -/
structure QuotedWord (word : List UInt8) : Prop where
  hasQuote : quote ∈ word
  solid : ∀ byte ∈ word, isSeparator byte = false

/-- The word occurs in a string of the value. -/
def Occurs (word : List UInt8) (value : Value) : Prop :=
  ∃ content, Spells value content ∧ word <:+: quoted content

section Gaps

variable {word gap first second : List UInt8}

theorem prefix_of_separated {separator : UInt8} (absent : separator ∉ word)
    (isPrefix : word <+: first ++ separator :: second) : word <+: first := by
  have sides : first <+: first ++ separator :: second := List.prefix_append _ _
  by_cases short : word.length ≤ first.length
  · exact List.prefix_of_prefix_length_le isPrefix sides short
  · exfalso
    have reaches : first ++ [separator] <+: word := by
      apply List.prefix_of_prefix_length_le _ isPrefix
      · rw [List.length_append, List.length_singleton]
        omega
      · exact ⟨second, by simp⟩
    exact absent (reaches.subset (by simp))

theorem infix_separated_iff {separator : UInt8} (absent : separator ∉ word) :
    word <:+: first ++ separator :: second ↔ word <:+: first ∨ word <:+: second := by
  constructor
  · intro occurs
    induction first with
    | nil =>
        rw [List.nil_append, List.infix_cons_iff] at occurs
        rcases occurs with isPrefix | later
        · have empty : word <+: [] := prefix_of_separated absent isPrefix
          exact Or.inl empty.isInfix
        · exact Or.inr later
    | cons byte first ih =>
        rw [List.cons_append, List.infix_cons_iff] at occurs
        rcases occurs with isPrefix | later
        · exact Or.inl (prefix_of_separated absent isPrefix).isInfix
        · rcases ih later with inFirst | inSecond
          · exact Or.inl (List.infix_cons inFirst)
          · exact Or.inr inSecond
  · rintro (inFirst | inSecond)
    · exact inFirst.trans (List.prefix_append _ _).isInfix
    · exact inSecond.trans ⟨first ++ [separator], [], by simp⟩

theorem QuotedWord.not_infix_nil (quotedWord : QuotedWord word) : ¬ word <:+: [] := by
  intro empty
  have present := empty.subset quotedWord.hasQuote
  simp at present

theorem QuotedWord.not_mem (quotedWord : QuotedWord word) {byte : UInt8}
    (separates : isSeparator byte = true) : byte ∉ word := by
  intro listed
  rw [quotedWord.solid byte listed] at separates
  cases separates

/-- Separators in front of a text change nothing. -/
theorem QuotedWord.infix_gap_append (quotedWord : QuotedWord word)
    (separates : ∀ byte ∈ gap, isSeparator byte = true) :
    word <:+: gap ++ second ↔ word <:+: second := by
  induction gap with
  | nil => rfl
  | cons byte gap ih =>
      have absent := quotedWord.not_mem (separates byte (List.mem_cons_self ..))
      have split := @infix_separated_iff word [] (gap ++ second) byte absent
      rw [List.nil_append] at split
      rw [List.cons_append, split, ih fun other listed =>
        separates other (List.mem_cons_of_mem _ listed)]
      exact or_iff_right quotedWord.not_infix_nil

/-- Separators between two texts keep them apart. -/
theorem QuotedWord.infix_gap_iff (quotedWord : QuotedWord word)
    (separates : ∀ byte ∈ gap, isSeparator byte = true) (nonempty : gap ≠ []) :
    word <:+: first ++ (gap ++ second) ↔ word <:+: first ∨ word <:+: second := by
  obtain ⟨byte, more, rfl⟩ := List.exists_cons_of_ne_nil nonempty
  have absent := quotedWord.not_mem (separates byte (List.mem_cons_self ..))
  rw [List.cons_append, infix_separated_iff absent, quotedWord.infix_gap_append fun other listed =>
    separates other (List.mem_cons_of_mem _ listed)]

end Gaps

section Readers

variable {bytes rest word : List UInt8}

/-- What `skip` passes over is white space. -/
theorem exists_skip (bytes : List UInt8) :
    ∃ blank, bytes = blank ++ skip bytes ∧ ∀ byte ∈ blank, isSeparator byte = true := by
  refine ⟨bytes.takeWhile isSpace, List.takeWhile_append_dropWhile.symm, ?_⟩
  intro byte listed
  have isSpace_ := List.all_eq_true.mp List.all_takeWhile byte listed
  simp [isSeparator, isSpace_]

/-- A separator after white space. -/
theorem exists_gap {byte : UInt8} {more : List UInt8} (starts : skip bytes = byte :: more)
    (separates : isSeparator byte = true) :
    ∃ gap, bytes = gap ++ more ∧ (∀ other ∈ gap, isSeparator other = true) ∧ gap ≠ [] := by
  obtain ⟨blank, bytesEq, blanks⟩ := exists_skip bytes
  refine ⟨blank ++ [byte], by rw [bytesEq, starts]; simp, ?_, by simp⟩
  intro other listed
  rcases List.mem_append.mp listed with inBlank | isByte
  · exact blanks other inBlank
  · exact List.mem_singleton.mp isByte ▸ separates

theorem readString_eq {content : List UInt8} (read : readString bytes = some (content, rest)) :
    bytes = content ++ quote :: rest := by
  fun_induction readString bytes generalizing content with
  | case1 => simp at read
  | case2 more =>
      obtain ⟨rfl, rfl⟩ := Prod.mk.inj (Option.some.inj read)
      rfl
  | case3 => simp at read
  | case4 escaped more _ ih =>
      obtain ⟨⟨inner, after⟩, readMore, same⟩ := Option.map_eq_some_iff.mp read
      obtain ⟨rfl, rfl⟩ := Prod.mk.inj same
      rw [ih readMore]
      rfl
  | case5 => simp at read
  | case6 byte more _ _ _ ih =>
      obtain ⟨⟨inner, after⟩, readMore, same⟩ := Option.map_eq_some_iff.mp read
      obtain ⟨rfl, rfl⟩ := Prod.mk.inj same
      rw [ih readMore]
      rfl

/-- A key is read with white space around it and its colon. -/
theorem readKey_eq {key : List UInt8} (read : readKey bytes = some (key, rest)) :
    ∃ blank gap, bytes = blank ++ (quoted key ++ (gap ++ rest)) ∧
      (∀ byte ∈ blank, isSeparator byte = true) ∧ (∀ byte ∈ gap, isSeparator byte = true) ∧
      gap ≠ [] := by
  obtain ⟨blank, bytesEq, blanks⟩ := exists_skip bytes
  rw [readKey] at read
  cases starts : skip bytes with
  | nil => simp [starts] at read
  | cons byte more =>
      rw [starts] at read bytesEq
      simp only at read
      by_cases opens : byte = quote
      · rw [if_pos opens] at read
        obtain ⟨⟨content, after⟩, string, tail⟩ := Option.bind_eq_some_iff.mp read
        simp only at tail
        cases marks : skip after with
        | nil => simp [marks] at tail
        | cons mark last =>
            rw [marks] at tail
            simp only at tail
            by_cases isColon : mark = colon
            · rw [if_pos isColon] at tail
              obtain ⟨rfl, rfl⟩ := Prod.mk.inj (Option.some.inj tail)
              obtain ⟨gap, afterEq, gaps, nonempty⟩ := exists_gap marks (isColon ▸ rfl)
              refine ⟨blank, gap, ?_, blanks, gaps, nonempty⟩
              rw [bytesEq, readString_eq string, afterEq, opens]
              simp [quoted]
            · simp [isColon] at tail
      · simp [opens] at read

/-- A scalar is spelled without quotes. -/
theorem readScalar_eq {value : Value} (read : readScalar bytes = some (value, rest)) :
    ∃ token, bytes = token ++ rest ∧ quote ∉ token ∧ ∀ content, ¬ Spells value content := by
  have literal : ∀ word : String, (ascii word).isPrefixOf bytes = true →
      bytes = ascii word ++ bytes.drop (ascii word).length := by
    intro word starts
    obtain ⟨after, rfl⟩ := List.isPrefixOf_iff_prefix.mp starts
    rw [List.drop_left]
  unfold readScalar at read
  split at read
  case isTrue starts =>
    obtain ⟨rfl, rfl⟩ := Prod.mk.inj (Option.some.inj read)
    exact ⟨_, literal "true" starts, by decide, by rintro _ ⟨⟩⟩
  split at read
  case isTrue starts =>
    obtain ⟨rfl, rfl⟩ := Prod.mk.inj (Option.some.inj read)
    exact ⟨_, literal "false" starts, by decide, by rintro _ ⟨⟩⟩
  split at read
  case isTrue starts =>
    obtain ⟨rfl, rfl⟩ := Prod.mk.inj (Option.some.inj read)
    exact ⟨_, literal "null" starts, by decide, by rintro _ ⟨⟩⟩
  split at read
  case isTrue => simp at read
  case isFalse =>
    obtain ⟨rfl, rfl⟩ := Prod.mk.inj (Option.some.inj read)
    refine ⟨_, List.takeWhile_append_dropWhile.symm, ?_, by rintro _ ⟨⟩⟩
    intro quoted_
    have numeric := List.all_eq_true.mp List.all_takeWhile quote quoted_
    exact absurd numeric (by decide)

end Readers

section Occurrences

variable {word : List UInt8} {fuel : ℕ}

theorem occurs_string_iff {content : List UInt8} :
    Occurs word (.string content) ↔ word <:+: quoted content := by
  constructor
  · rintro ⟨_, ⟨⟩, inside⟩
    exact inside
  · intro inside
    exact ⟨content, .string content, inside⟩

theorem occurs_array_iff {items : List Value} :
    Occurs word (.array items) ↔ ∃ item ∈ items, Occurs word item := by
  constructor
  · rintro ⟨content, spells, inside⟩
    cases spells with
    | item listed spells => exact ⟨_, listed, content, spells, inside⟩
  · rintro ⟨item, listed, content, spells, inside⟩
    exact ⟨content, .item listed spells, inside⟩

theorem occurs_object_iff {members : List (List UInt8 × Value)} :
    Occurs word (.object members) ↔
      ∃ member ∈ members, word <:+: quoted member.1 ∨ Occurs word member.2 := by
  constructor
  · rintro ⟨content, spells, inside⟩
    cases spells with
    | key listed => exact ⟨_, listed, Or.inl inside⟩
    | member listed spells => exact ⟨_, listed, Or.inr ⟨content, spells, inside⟩⟩
  · rintro ⟨member, listed, inKey | ⟨content, spells, inside⟩⟩
    · exact ⟨member.1, .key listed, inKey⟩
    · exact ⟨content, .member listed spells, inside⟩

/-- What one read has used up contains the word exactly if what was read
does. -/
def FindsIn {α : Type} (word : List UInt8) (holds : α → Prop)
    (read : List UInt8 → Option (α × List UInt8)) : Prop :=
  ∀ bytes result rest, read bytes = some (result, rest) →
    ∃ used, bytes = used ++ rest ∧ (word <:+: used ↔ holds result)

/-- What comes after an element of a list: a comma and the other elements, or
the closing bracket. -/
theorem QuotedWord.findsIn_tail {α : Type} {holds : α → Prop} {element : α} {result : List α}
    {readOthers : List UInt8 → Option (List α × List UInt8)} {after more rest : List UInt8}
    {byte closing : UInt8} (quotedWord : QuotedWord word)
    (others : FindsIn word (fun result => ∃ other ∈ result, holds other) readOthers)
    (separates : isSeparator closing = true) (starts : skip after = byte :: more)
    (read : (if byte = comma then
        (readOthers more).map fun others => (element :: others.1, others.2)
      else if byte = closing then some ([element], more) else none) = some (result, rest)) :
    ∃ used, after = used ++ rest ∧ ∀ first, (word <:+: first ↔ holds element) →
      (word <:+: first ++ used ↔ ∃ other ∈ result, holds other) := by
  by_cases isComma : byte = comma
  · rw [if_pos isComma] at read
    obtain ⟨⟨later, last⟩, readLater, same⟩ := Option.map_eq_some_iff.mp read
    obtain ⟨rfl, rfl⟩ := Prod.mk.inj same
    obtain ⟨used, rfl, usedIff⟩ := others _ _ _ readLater
    obtain ⟨gap, rfl, gaps, nonempty⟩ := exists_gap starts (isComma ▸ rfl)
    refine ⟨gap ++ used, by simp, ?_⟩
    intro first firstIff
    rw [quotedWord.infix_gap_iff gaps nonempty, firstIff, usedIff]
    simp
  rw [if_neg isComma] at read
  by_cases closes : byte = closing
  · rw [if_pos closes] at read
    obtain ⟨rfl, rfl⟩ := Prod.mk.inj (Option.some.inj read)
    obtain ⟨gap, rfl, gaps, nonempty⟩ := exists_gap starts (closes ▸ separates)
    refine ⟨gap ++ [], by simp, ?_⟩
    intro first firstIff
    rw [quotedWord.infix_gap_iff gaps nonempty, firstIff]
    simp [quotedWord.not_infix_nil]
  · simp [closes] at read

theorem findsIn_elements (quotedWord : QuotedWord word)
    (value : FindsIn word (Occurs word) (readValue fuel))
    (elements : FindsIn word (fun items => ∃ item ∈ items, Occurs word item) (readElements fuel)) :
    FindsIn word (fun items => ∃ item ∈ items, Occurs word item) (readElements (fuel + 1)) := by
  intro bytes items rest read
  rw [readElements] at read
  obtain ⟨⟨first, after⟩, readFirst, tail⟩ := Option.bind_eq_some_iff.mp read
  obtain ⟨used, rfl, firstIff⟩ := value _ _ _ readFirst
  simp only at tail
  cases starts : skip after with
  | nil => simp [starts] at tail
  | cons byte more =>
      rw [starts] at tail
      obtain ⟨usedTail, rfl, tailIff⟩ := quotedWord.findsIn_tail elements rfl starts tail
      refine ⟨used ++ usedTail, by simp, ?_⟩
      exact tailIff used firstIff

theorem findsIn_members (quotedWord : QuotedWord word)
    (value : FindsIn word (Occurs word) (readValue fuel))
    (members : FindsIn word
      (fun members => ∃ member ∈ members, word <:+: quoted member.1 ∨ Occurs word member.2)
      (readMembers fuel)) :
    FindsIn word
      (fun members => ∃ member ∈ members, word <:+: quoted member.1 ∨ Occurs word member.2)
      (readMembers (fuel + 1)) := by
  intro bytes result rest read
  rw [readMembers] at read
  obtain ⟨⟨key, afterKey⟩, readKey_, readRest⟩ := Option.bind_eq_some_iff.mp read
  obtain ⟨lead, colonGap, rfl, leads, colonGaps, colonNonempty⟩ := readKey_eq readKey_
  obtain ⟨⟨first, after⟩, readFirst, tail⟩ := Option.bind_eq_some_iff.mp readRest
  obtain ⟨used, afterKeyEq, firstIff⟩ := value _ _ _ readFirst
  simp only at afterKeyEq
  subst afterKeyEq
  have memberIff : word <:+: lead ++ (quoted key ++ (colonGap ++ used)) ↔
      word <:+: quoted key ∨ Occurs word first := by
    rw [quotedWord.infix_gap_append leads, quotedWord.infix_gap_iff colonGaps colonNonempty,
      firstIff]
  simp only at tail
  cases starts : skip after with
  | nil => simp [starts] at tail
  | cons byte more =>
      rw [starts] at tail
      obtain ⟨usedTail, rfl, tailIff⟩ := quotedWord.findsIn_tail members rfl starts tail
      refine ⟨lead ++ (quoted key ++ (colonGap ++ used)) ++ usedTail, by simp, ?_⟩
      exact tailIff _ memberIff

/-- What comes after the opening bracket of a list: the closing bracket, or the
elements. -/
theorem QuotedWord.findsIn_list {α : Type} {holds : α → Prop} {wrap : List α → Value}
    {value : Value} {readInner : List UInt8 → Option (List α × List UInt8)}
    {bytes more rest : List UInt8} {byte closing : UInt8} (quotedWord : QuotedWord word)
    (inner : FindsIn word (fun result => ∃ element ∈ result, holds element) readInner)
    (occurs : ∀ list, Occurs word (wrap list) ↔ ∃ element ∈ list, holds element)
    (opens : isSeparator byte = true) (separates : isSeparator closing = true)
    (starts : skip bytes = byte :: more)
    (read : (if (skip more).head? = some closing then some (wrap [], (skip more).tail)
      else (readInner more).map fun read => (wrap read.1, read.2)) = some (value, rest)) :
    ∃ used, bytes = used ++ rest ∧ (word <:+: used ↔ Occurs word value) := by
  obtain ⟨gap, rfl, gaps, -⟩ := exists_gap starts opens
  split at read
  case isTrue closes =>
    obtain ⟨rfl, rfl⟩ := Prod.mk.inj (Option.some.inj read)
    obtain ⟨last, closesAt⟩ := List.head?_eq_some_iff.mp closes
    obtain ⟨blank, rfl, blanks, -⟩ := exists_gap closesAt separates
    refine ⟨gap ++ (blank ++ []), by simp [closesAt], ?_⟩
    rw [quotedWord.infix_gap_append gaps, quotedWord.infix_gap_append blanks, occurs]
    simp [quotedWord.not_infix_nil]
  case isFalse =>
    obtain ⟨⟨list, after⟩, readList, same⟩ := Option.map_eq_some_iff.mp read
    obtain ⟨rfl, rfl⟩ := Prod.mk.inj same
    obtain ⟨used, rfl, usedIff⟩ := inner _ _ _ readList
    refine ⟨gap ++ used, by simp, ?_⟩
    rw [quotedWord.infix_gap_append gaps, usedIff, occurs]

/-- A value is a list between brackets, a string or a scalar. -/
theorem findsIn_value (quotedWord : QuotedWord word)
    (elements : FindsIn word (fun items => ∃ item ∈ items, Occurs word item) (readElements fuel))
    (members : FindsIn word
      (fun members => ∃ member ∈ members, word <:+: quoted member.1 ∨ Occurs word member.2)
      (readMembers fuel)) :
    FindsIn word (Occurs word) (readValue (fuel + 1)) := by
  intro bytes value rest read
  rw [readValue] at read
  cases starts : skip bytes with
  | nil => simp [starts] at read
  | cons byte more =>
      rw [starts] at read
      simp only at read
      by_cases isObject : byte = openBrace
      · rw [if_pos isObject] at read
        exact quotedWord.findsIn_list members (fun _ => occurs_object_iff) (isObject ▸ rfl) rfl
          starts read
      rw [if_neg isObject] at read
      by_cases isArray : byte = openBracket
      · rw [if_pos isArray] at read
        exact quotedWord.findsIn_list elements (fun _ => occurs_array_iff) (isArray ▸ rfl) rfl
          starts read
      rw [if_neg isArray] at read
      obtain ⟨blank, bytesEq, blanks⟩ := exists_skip bytes
      rw [starts] at bytesEq
      by_cases isString : byte = quote
      · rw [if_pos isString] at read
        obtain ⟨⟨content, after⟩, string, same⟩ := Option.map_eq_some_iff.mp read
        obtain ⟨rfl, rfl⟩ := Prod.mk.inj same
        refine ⟨blank ++ quoted content, ?_, ?_⟩
        · rw [bytesEq, readString_eq string, isString]
          simp [quoted]
        · rw [quotedWord.infix_gap_append blanks, occurs_string_iff]
      · rw [if_neg isString] at read
        obtain ⟨token, tokenEq, unquoted, silent⟩ := readScalar_eq read
        refine ⟨blank ++ token, by rw [bytesEq, tokenEq, List.append_assoc], ?_⟩
        rw [quotedWord.infix_gap_append blanks]
        constructor
        · intro inside
          exact absurd (inside.subset quotedWord.hasQuote) unquoted
        · rintro ⟨content, spells, _⟩
          exact absurd spells (silent content)

theorem findsIn_readers (quotedWord : QuotedWord word) :
    FindsIn word (Occurs word) (readValue fuel) ∧
      FindsIn word (fun items => ∃ item ∈ items, Occurs word item) (readElements fuel) ∧
      FindsIn word
        (fun members => ∃ member ∈ members, word <:+: quoted member.1 ∨ Occurs word member.2)
        (readMembers fuel) := by
  induction fuel with
  | zero =>
      refine ⟨?_, ?_, ?_⟩
      · intro bytes result rest read
        simp [readValue] at read
      · intro bytes result rest read
        simp [readElements] at read
      · intro bytes result rest read
        simp [readMembers] at read
  | succ fuel ih =>
      obtain ⟨value, elements, members⟩ := ih
      exact ⟨findsIn_value quotedWord elements members,
        findsIn_elements quotedWord value elements, findsIn_members quotedWord value members⟩

/-- A quoted word occurs in a text exactly if it occurs in one of its strings. -/
theorem infix_iff_occurs (quotedWord : QuotedWord word) {bytes : List UInt8} {value : Value}
    (parsed : parse bytes = some value) : word <:+: bytes ↔ Occurs word value := by
  obtain ⟨⟨result, rest⟩, read, ends⟩ := Option.bind_eq_some_iff.mp parsed
  obtain ⟨blankRest, rfl⟩ : skip rest = [] ∧ result = value := by
    simpa using ends
  obtain ⟨used, rfl, usedIff⟩ := (findsIn_readers quotedWord).1 bytes result rest read
  obtain ⟨blank, restEq, blanks⟩ := exists_skip rest
  rw [blankRest, List.append_nil] at restEq
  rw [← usedIff]
  cases blank with
  | nil => rw [restEq, List.append_nil]
  | cons byte more =>
      have split := @QuotedWord.infix_gap_iff word (byte :: more) used [] quotedWord blanks (by simp)
      rw [List.append_nil] at split
      rw [restEq, split]
      exact or_iff_left quotedWord.not_infix_nil

/-- In a string without quotes, only the whole string is a quoted word. -/
theorem quoted_infix_quoted_iff {content : List UInt8} (plain : quote ∉ content) :
    quoted word <:+: quoted content ↔ content = word := by
  constructor
  · intro occurs
    rw [quoted, quoted, List.infix_cons_iff] at occurs
    rcases occurs with isPrefix | later
    · rw [List.cons_prefix_cons, List.prefix_concat_iff] at isPrefix
      rcases isPrefix.2 with same | shorter
      · exact (List.append_cancel_right same).symm
      · exact absurd (shorter.subset (by simp)) plain
    · rw [List.infix_concat_iff] at later
      rcases later with isSuffix | within
      · rw [← List.cons_append, List.suffix_concat_iff] at isSuffix
        rcases isSuffix with empty | ⟨start, same, isSuffix⟩
        · simp at empty
        · rw [← List.append_cancel_right same] at isSuffix
          exact absurd (isSuffix.subset (List.mem_cons_self ..)) plain
      · exact absurd (within.subset (List.mem_cons_self ..)) plain
  · rintro rfl
    exact List.infix_refl _

end Occurrences

end JsonText
