import Mathlib.Data.List.Forall2

/-!
# Reading JSON texts

A reader for the grammar of JSON over bytes.  It settles the structure of a
text; what a number or a string spells is left to whoever interprets the
tokens, as implementations differ there.

`Reads` says that a text stands for a value wherever a value may stand.  Its
rules build texts of arrays and objects from the texts of their parts, which
is how a text assembled from pieces is shown to be JSON.
-/

namespace JsonText

/-- A JSON value with its numbers and strings as they are spelled, a string
without the quotes around it. -/
inductive Value where
  | null
  | bool (value : Bool)
  | number (token : List UInt8)
  | string (content : List UInt8)
  | array (items : List Value)
  | object (members : List (List UInt8 × Value))

/-- The bytes of a text in ASCII characters. -/
def ascii (text : String) : List UInt8 :=
  text.toList.map fun character => UInt8.ofNat character.toNat

def quote : UInt8 := 34
def comma : UInt8 := 44
def colon : UInt8 := 58
def openBracket : UInt8 := 91
def backslash : UInt8 := 92
def closeBracket : UInt8 := 93
def openBrace : UInt8 := 123
def closeBrace : UInt8 := 125

def isSpace (byte : UInt8) : Bool := byte = 32 || byte = 9 || byte = 10 || byte = 13

/-- A digit, a sign, a decimal point or an exponent mark. -/
def isNumberByte (byte : UInt8) : Bool :=
  (48 ≤ byte && byte ≤ 57) || byte = 43 || byte = 45 || byte = 46 || byte = 69 || byte = 101

def skip (bytes : List UInt8) : List UInt8 := bytes.dropWhile isSpace

/-- The content of a string up to its closing quote, with what follows. -/
def readString : List UInt8 → Option (List UInt8 × List UInt8)
  | [] => none
  | byte :: rest =>
      if byte = quote then some ([], rest)
      else if byte = backslash then
        match rest with
        | [] => none
        | escaped :: more =>
            (readString more).map fun read => (byte :: escaped :: read.1, read.2)
      else if byte < 32 then none
      else (readString rest).map fun read => (byte :: read.1, read.2)

/-- A literal name or a number. -/
def readScalar (bytes : List UInt8) : Option (Value × List UInt8) :=
  if (ascii "true").isPrefixOf bytes then some (.bool true, bytes.drop 4)
  else if (ascii "false").isPrefixOf bytes then some (.bool false, bytes.drop 5)
  else if (ascii "null").isPrefixOf bytes then some (.null, bytes.drop 4)
  else if bytes.takeWhile isNumberByte = [] then none
  else some (.number (bytes.takeWhile isNumberByte), bytes.dropWhile isNumberByte)

/-- The key of a member and its colon. -/
def readKey (bytes : List UInt8) : Option (List UInt8 × List UInt8) :=
  match skip bytes with
  | [] => none
  | byte :: rest =>
      if byte = quote then
        (readString rest).bind fun read =>
          match skip read.2 with
          | [] => none
          | mark :: more => if mark = colon then some (read.1, more) else none
      else
        none

mutual

/-- One value, with what follows it. -/
def readValue : ℕ → List UInt8 → Option (Value × List UInt8)
  | 0, _ => none
  | fuel + 1, bytes =>
      match skip bytes with
      | [] => none
      | byte :: rest =>
          if byte = openBrace then
            if (skip rest).head? = some closeBrace then some (.object [], (skip rest).tail)
            else (readMembers fuel rest).map fun read => (.object read.1, read.2)
          else if byte = openBracket then
            if (skip rest).head? = some closeBracket then some (.array [], (skip rest).tail)
            else (readElements fuel rest).map fun read => (.array read.1, read.2)
          else if byte = quote then
            (readString rest).map fun read => (.string read.1, read.2)
          else
            readScalar (byte :: rest)

/-- The elements of an array that are left, up to its closing bracket. -/
def readElements : ℕ → List UInt8 → Option (List Value × List UInt8)
  | 0, _ => none
  | fuel + 1, bytes =>
      (readValue fuel bytes).bind fun read =>
        match skip read.2 with
        | [] => none
        | byte :: rest =>
            if byte = comma then
              (readElements fuel rest).map fun others => (read.1 :: others.1, others.2)
            else if byte = closeBracket then some ([read.1], rest)
            else none

/-- The members of an object that are left, up to its closing brace. -/
def readMembers : ℕ → List UInt8 → Option (List (List UInt8 × Value) × List UInt8)
  | 0, _ => none
  | fuel + 1, bytes =>
      (readKey bytes).bind fun key =>
        (readValue fuel key.2).bind fun read =>
          match skip read.2 with
          | [] => none
          | byte :: rest =>
              if byte = comma then
                (readMembers fuel rest).map fun others => ((key.1, read.1) :: others.1, others.2)
              else if byte = closeBrace then some ([(key.1, read.1)], rest)
              else none

end

/-- The value of a text that holds one value and nothing else. -/
def parse (bytes : List UInt8) : Option Value :=
  (readValue (2 * bytes.length) bytes).bind fun read =>
    if skip read.2 = [] then some read.1 else none

/-- Texts joined by commas. -/
def joined : List (List UInt8) → List UInt8
  | [] => []
  | [text] => text
  | text :: next :: rest => text ++ comma :: joined (next :: rest)

def quoted (content : List UInt8) : List UInt8 := quote :: (content ++ [quote])

def arrayText (texts : List (List UInt8)) : List UInt8 :=
  openBracket :: (joined texts ++ [closeBracket])

def memberText (key text : List UInt8) : List UInt8 := quoted key ++ colon :: text

def objectText (members : List (List UInt8)) : List UInt8 :=
  openBrace :: (joined members ++ [closeBrace])

/-- A string can be spelled like this. -/
def Spelled (content : List UInt8) : Prop :=
  ∀ rest, readString (content ++ quote :: rest) = some (content, rest)

/-- A number that stands before this has come to its end. -/
def Ended (rest : List UInt8) : Prop := ∀ byte, rest.head? = some byte → isNumberByte byte = false

/-- A byte that a value can begin with. -/
def isOpening (byte : UInt8) : Bool :=
  !isSpace byte && byte ≠ closeBracket && byte ≠ closeBrace

/-- The text stands for the value wherever a value may stand. -/
structure Reads (text : List UInt8) (value : Value) : Prop where
  opens : ∃ byte rest, text = byte :: rest ∧ isOpening byte = true
  reads : ∀ fuel rest, 2 * text.length ≤ fuel → Ended rest →
    readValue fuel (text ++ rest) = some (value, rest)

section Rules

variable {text rest : List UInt8} {value : Value} {byte : UInt8} {fuel : ℕ}

theorem skip_cons (solid : isSpace byte = false) : skip (byte :: rest) = byte :: rest := by
  rw [skip, List.dropWhile_cons_of_neg (by simpa using solid)]

theorem isSpace_of_isOpening (opening : isOpening byte = true) : isSpace byte = false := by
  simp only [isOpening, Bool.and_eq_true, Bool.not_eq_true'] at opening
  exact opening.1.1

theorem Reads.parse (reads : Reads text value) : parse text = some value := by
  have read := reads.reads (2 * text.length) [] (Nat.le_refl _) (by simp [Ended])
  rw [List.append_nil] at read
  rw [JsonText.parse, read]
  rfl

/-- A value is its text's only reading. -/
theorem Reads.unique {other : Value} (reads : Reads text value) (readsOther : Reads text other) :
    value = other :=
  Option.some.inj (reads.parse.symm.trans readsOther.parse)

theorem ended_cons (ends : isNumberByte byte = false) : Ended (byte :: rest) := by
  intro first isFirst
  obtain rfl := Option.some.inj isFirst
  exact ends

theorem Reads.of_succ (opens : ∃ byte rest, text = byte :: rest ∧ isOpening byte = true)
    (reads : ∀ fuel rest, 2 * text.length ≤ fuel + 1 → Ended rest →
      readValue (fuel + 1) (text ++ rest) = some (value, rest)) : Reads text value where
  opens := opens
  reads := by
    intro fuel rest enough ended
    obtain ⟨byte, more, rfl, -⟩ := opens
    obtain ⟨fewer, rfl⟩ : ∃ fewer, fuel = fewer + 1 :=
      ⟨fuel - 1, by rw [List.length_cons] at enough; omega⟩
    exact reads fewer rest enough ended

theorem reads_quoted {content : List UInt8} (spelled : Spelled content) :
    Reads (quoted content) (.string content) := by
  have opens : ∃ byte rest, quoted content = byte :: rest ∧ isOpening byte = true :=
    ⟨quote, content ++ [quote], rfl, by decide⟩
  apply Reads.of_succ opens
  intro fuel rest _ _
  have body : quoted content ++ rest = quote :: (content ++ quote :: rest) := by simp [quoted]
  rw [body, readValue, skip_cons (by decide)]
  simpa [quote, openBrace, openBracket] using spelled rest

theorem reads_bool (value : Bool) :
    Reads (if value then ascii "true" else ascii "false") (.bool value) := by
  cases value with
  | true =>
      apply Reads.of_succ ⟨116, ascii "rue", rfl, by decide⟩
      intro fuel rest _ _
      rw [readValue]
      rfl
  | false =>
      apply Reads.of_succ ⟨102, ascii "alse", rfl, by decide⟩
      intro fuel rest _ _
      rw [readValue]
      rfl

/-- What a byte of a number is not. -/
theorem ne_of_isNumberByte {other : UInt8} (inNumber : isNumberByte byte = true)
    (outside : isNumberByte other = false) : byte ≠ other := by
  rintro rfl
  rw [inNumber] at outside
  cases outside

theorem not_isPrefixOf_of_isNumberByte {first : UInt8} {more : List UInt8}
    (inNumber : isNumberByte byte = true) (outside : isNumberByte first = false) :
    (first :: more).isPrefixOf (byte :: rest) = false := by
  have differs : first ≠ byte := (ne_of_isNumberByte inNumber outside).symm
  simp [List.isPrefixOf, differs]

theorem reads_number {token : List UInt8} (nonempty : token ≠ [])
    (numeric : ∀ byte ∈ token, isNumberByte byte = true) : Reads token (.number token) := by
  obtain ⟨first, more, rfl⟩ := List.exists_cons_of_ne_nil nonempty
  have inNumber := numeric first (List.mem_cons_self ..)
  have solid : isSpace first = false := by
    by_contra space
    simp only [isSpace, Bool.or_eq_true, decide_eq_true_eq, Bool.not_eq_false] at space
    rcases space with ((rfl | rfl) | rfl) | rfl <;> exact absurd inNumber (by decide)
  have opening : isOpening first = true := by
    have notBracket : first ≠ closeBracket := ne_of_isNumberByte inNumber (by decide)
    have notBrace : first ≠ closeBrace := ne_of_isNumberByte inNumber (by decide)
    simp [isOpening, solid, notBracket, notBrace]
  apply Reads.of_succ ⟨first, more, rfl, opening⟩
  intro fuel rest _ ended
  have taken : (first :: more ++ rest).takeWhile isNumberByte = first :: more := by
    rw [List.takeWhile_append_of_pos numeric]
    cases rest with
    | nil => simp
    | cons byte others =>
        have ends := ended byte rfl
        simp [ends]
  have dropped : (first :: more ++ rest).dropWhile isNumberByte = rest := by
    rw [List.dropWhile_append_of_pos numeric]
    cases rest with
    | nil => rfl
    | cons byte others =>
        have ends := ended byte rfl
        simp [ends]
  rw [List.cons_append] at taken dropped ⊢
  rw [readValue, skip_cons solid]
  simp only
  rw [if_neg (ne_of_isNumberByte inNumber (by decide)),
    if_neg (ne_of_isNumberByte inNumber (by decide)),
    if_neg (ne_of_isNumberByte inNumber (by decide)), readScalar]
  have notTrue : (ascii "true").isPrefixOf (first :: (more ++ rest)) = false :=
    not_isPrefixOf_of_isNumberByte inNumber (by decide)
  have notFalse : (ascii "false").isPrefixOf (first :: (more ++ rest)) = false :=
    not_isPrefixOf_of_isNumberByte inNumber (by decide)
  have notNull : (ascii "null").isPrefixOf (first :: (more ++ rest)) = false :=
    not_isPrefixOf_of_isNumberByte inNumber (by decide)
  simp [notTrue, notFalse, notNull, taken, dropped]

theorem joined_cons {texts : List (List UInt8)} (more : texts ≠ []) :
    joined (text :: texts) = text ++ comma :: joined texts := by
  obtain ⟨next, rest, rfl⟩ := List.exists_cons_of_ne_nil more
  rfl

/-- Joining groups of texts joins all of them, as long as no group is empty. -/
theorem joined_map_joined {groups : List (List (List UInt8))}
    (inhabited : ∀ group ∈ groups, group ≠ []) :
    joined (groups.map joined) = joined groups.flatten := by
  induction groups with
  | nil => rfl
  | cons group rest ih =>
      have others := ih fun other listed => inhabited other (List.mem_cons_of_mem _ listed)
      have nonempty := inhabited group (List.mem_cons_self ..)
      clear ih
      by_cases last : rest = []
      · subst last
        simp [joined]
      · have some_ : rest.map joined ≠ [] := by simpa using last
        have more : rest.flatten ≠ [] := by
          obtain ⟨next, later, rfl⟩ := List.exists_cons_of_ne_nil last
          have nextNonempty := inhabited next (by simp)
          simp [nextNonempty]
        rw [List.map_cons, joined_cons some_, List.flatten_cons, others]
        clear inhabited
        induction group with
        | nil => exact absurd rfl nonempty
        | cons first later ih =>
            by_cases single : later = []
            · subst single
              rw [List.singleton_append, joined_cons more]
              rfl
            · have goesOn : later ++ rest.flatten ≠ [] := by simp [single]
              rw [joined_cons single, List.cons_append, joined_cons goesOn, ← ih single]
              simp

theorem readElements_joined {texts : List (List UInt8)} {values : List Value}
    (reads : List.Forall₂ Reads texts values) (nonempty : texts ≠ []) :
    ∀ fuel rest, 2 * (joined texts).length + 1 ≤ fuel →
      readElements fuel (joined texts ++ closeBracket :: rest) = some (values, rest) := by
  induction reads with
  | nil => exact absurd rfl nonempty
  | @cons text value texts values first others ih =>
      intro fuel rest enough
      obtain ⟨fewer, rfl⟩ : ∃ fewer, fuel = fewer + 1 := ⟨fuel - 1, by omega⟩
      by_cases last : texts = []
      · subst last
        obtain rfl := List.forall₂_nil_left_iff.mp others
        have read := first.reads fewer (closeBracket :: rest) (by simpa [joined] using enough)
          (ended_cons (by decide))
        rw [readElements, joined, read]
        simp only [Option.bind_some]
        rw [skip_cons (by decide)]
        rfl
      · rw [joined_cons last, List.append_assoc, List.cons_append]
        rw [joined_cons last, List.length_append, List.length_cons] at enough
        have read := first.reads fewer (comma :: (joined texts ++ closeBracket :: rest))
          (by omega) (ended_cons (by decide))
        have later := ih last fewer rest (by omega)
        rw [readElements, read]
        simp only [Option.bind_some]
        rw [skip_cons (by decide)]
        simp [later]

theorem opening_joined {texts : List (List UInt8)} {values : List Value}
    (reads : List.Forall₂ Reads texts values) (nonempty : texts ≠ []) :
    ∃ byte rest, joined texts = byte :: rest ∧ isOpening byte = true := by
  cases reads with
  | nil => exact absurd rfl nonempty
  | @cons text value texts values first others =>
      obtain ⟨byte, more, rfl, opening⟩ := first.opens
      by_cases last : texts = []
      · subst last
        exact ⟨byte, more, rfl, opening⟩
      · rw [joined_cons last]
        exact ⟨byte, _, rfl, opening⟩

theorem reads_array {texts : List (List UInt8)} {values : List Value}
    (reads : List.Forall₂ Reads texts values) : Reads (arrayText texts) (.array values) := by
  have opens : ∃ byte rest, arrayText texts = byte :: rest ∧ isOpening byte = true :=
    ⟨openBracket, joined texts ++ [closeBracket], rfl, by decide⟩
  apply Reads.of_succ opens
  intro fuel rest enough _
  have body : arrayText texts ++ rest = openBracket :: (joined texts ++ closeBracket :: rest) := by
    simp [arrayText]
  have length : (arrayText texts).length = (joined texts).length + 2 := by simp [arrayText]
  rw [body, readValue, skip_cons (by decide)]
  simp only
  rw [if_neg (by decide), if_pos (by trivial)]
  by_cases none_ : texts = []
  · subst none_
    obtain rfl := List.forall₂_nil_left_iff.mp reads
    rw [joined, List.nil_append, skip_cons (by decide)]
    rfl
  · obtain ⟨byte, more, starts, opening⟩ := opening_joined reads none_
    have continues : skip (joined texts ++ closeBracket :: rest) =
        joined texts ++ closeBracket :: rest := by
      rw [starts, List.cons_append, skip_cons (isSpace_of_isOpening opening)]
    have unclosed : (joined texts ++ closeBracket :: rest).head? ≠ some closeBracket := by
      rw [starts]
      simp only [isOpening, Bool.and_eq_true, decide_eq_true_eq] at opening
      simpa using opening.1.2
    rw [continues, if_neg unclosed, readElements_joined reads none_ fuel rest (by omega)]
    rfl

theorem readKey_memberText {key : List UInt8} (spelled : Spelled key) :
    readKey (memberText key text ++ rest) = some (key, text ++ rest) := by
  have body : memberText key text ++ rest =
      quote :: (key ++ quote :: (colon :: (text ++ rest))) := by
    simp [memberText, quoted]
  rw [body, readKey, skip_cons (by decide)]
  simp only [if_true]
  rw [spelled, Option.bind_some, skip_cons (by decide)]
  simp

/-- The member of an object with a given key and value. -/
def ReadsMember (text : List UInt8) (member : List UInt8 × Value) : Prop :=
  ∃ content, text = memberText member.1 content ∧ Spelled member.1 ∧ Reads content member.2

theorem readMembers_joined {texts : List (List UInt8)} {members : List (List UInt8 × Value)}
    (reads : List.Forall₂ ReadsMember texts members) (nonempty : texts ≠ []) :
    ∀ fuel rest, 2 * (joined texts).length + 1 ≤ fuel →
      readMembers fuel (joined texts ++ closeBrace :: rest) = some (members, rest) := by
  induction reads with
  | nil => exact absurd rfl nonempty
  | @cons text member texts members first others ih =>
      intro fuel rest enough
      obtain ⟨fewer, rfl⟩ : ∃ fewer, fuel = fewer + 1 := ⟨fuel - 1, by omega⟩
      obtain ⟨content, rfl, spelled, value⟩ := first
      have longer : content.length ≤ (memberText member.1 content).length := by
        simp [memberText]
        omega
      by_cases last : texts = []
      · subst last
        obtain rfl := List.forall₂_nil_left_iff.mp others
        rw [joined] at enough ⊢
        have read := value.reads fewer (closeBrace :: rest) (by omega) (ended_cons (by decide))
        rw [readMembers, readKey_memberText spelled, Option.bind_some, read, Option.bind_some,
          skip_cons (by decide)]
        rfl
      · rw [joined_cons last, List.append_assoc, List.cons_append]
        rw [joined_cons last, List.length_append, List.length_cons] at enough
        have read := value.reads fewer (comma :: (joined texts ++ closeBrace :: rest))
          (by omega) (ended_cons (by decide))
        have later := ih last fewer rest (by omega)
        rw [readMembers, readKey_memberText spelled, Option.bind_some, read, Option.bind_some,
          skip_cons (by decide)]
        simp [later]

theorem reads_object {texts : List (List UInt8)} {members : List (List UInt8 × Value)}
    (reads : List.Forall₂ ReadsMember texts members) :
    Reads (objectText texts) (.object members) := by
  have opens : ∃ byte rest, objectText texts = byte :: rest ∧ isOpening byte = true :=
    ⟨openBrace, joined texts ++ [closeBrace], rfl, by decide⟩
  apply Reads.of_succ opens
  intro fuel rest enough _
  have body : objectText texts ++ rest = openBrace :: (joined texts ++ closeBrace :: rest) := by
    simp [objectText]
  have length : (objectText texts).length = (joined texts).length + 2 := by simp [objectText]
  rw [body, readValue, skip_cons (by decide)]
  simp only
  rw [if_pos (by trivial)]
  cases reads with
  | nil =>
      rw [joined, List.nil_append, skip_cons (by decide)]
      rfl
  | @cons text member texts members first others =>
      obtain ⟨more, starts⟩ : ∃ more, joined (text :: texts) = quote :: more := by
        obtain ⟨content, rfl, -, -⟩ := first
        by_cases last : texts = []
        · subst last
          exact ⟨_, rfl⟩
        · rw [joined_cons last]
          exact ⟨_, rfl⟩
      have continues : skip (joined (text :: texts) ++ closeBrace :: rest) =
          joined (text :: texts) ++ closeBrace :: rest := by
        rw [starts, List.cons_append, skip_cons (by decide)]
      have unclosed : (joined (text :: texts) ++ closeBrace :: rest).head? ≠ some closeBrace := by
        rw [starts]
        simp [quote, closeBrace]
      have read := readMembers_joined (.cons first others) (by simp) fuel rest (by omega)
      rw [continues, if_neg unclosed, read]
      rfl

/-- Printable ASCII characters other than quotes and backslashes spell
themselves. -/
theorem spelled_of_plain {content : List UInt8}
    (plain : ∀ byte ∈ content, ¬ byte < 32 ∧ byte ≠ quote ∧ byte ≠ backslash) :
    Spelled content := by
  intro rest
  induction content with
  | nil =>
      rw [List.nil_append, readString.eq_def]
      simp
  | cons byte others ih =>
      obtain ⟨printable, notQuote, notBackslash⟩ := plain byte (List.mem_cons_self ..)
      have later := ih fun other listed => plain other (List.mem_cons_of_mem _ listed)
      rw [List.cons_append, readString.eq_def]
      simp only
      rw [if_neg notQuote, if_neg notBackslash, if_neg printable, later]
      rfl

end Rules

section Shapes

variable {bytes rest : List UInt8} {fuel : ℕ}

theorem readScalar_scalar {value : Value} (read : readScalar bytes = some (value, rest)) :
    (∀ items, value ≠ .array items) ∧ ∀ members, value ≠ .object members := by
  unfold readScalar at read
  split at read
  · obtain ⟨rfl, _⟩ := Prod.mk.inj (Option.some.inj read)
    simp
  · split at read
    · obtain ⟨rfl, _⟩ := Prod.mk.inj (Option.some.inj read)
      simp
    · split at read
      · obtain ⟨rfl, _⟩ := Prod.mk.inj (Option.some.inj read)
        simp
      · split at read
        · simp at read
        · obtain ⟨rfl, _⟩ := Prod.mk.inj (Option.some.inj read)
          simp

/-- Where a value was read, its first byte tells what kind it is of. -/
theorem readValue_cases {value : Value} (read : readValue fuel bytes = some (value, rest)) :
    ∃ byte more, skip bytes = byte :: more ∧
      ((byte = openBrace ∧ ∃ members, value = .object members) ∨
        (byte = openBracket ∧ ∃ items, value = .array items) ∨
        (byte = quote ∧ ∃ content, value = .string content ∧
          readString more = some (content, rest)) ∨
        readScalar (byte :: more) = some (value, rest)) := by
  cases fuel with
  | zero => simp [readValue] at read
  | succ fuel =>
      rw [readValue] at read
      cases starts : skip bytes with
      | nil => simp [starts] at read
      | cons byte more =>
          refine ⟨byte, more, rfl, ?_⟩
          rw [starts] at read
          simp only at read
          by_cases isObject : byte = openBrace
          · refine Or.inl ⟨isObject, ?_⟩
            rw [if_pos isObject] at read
            split at read
            · exact ⟨[], (Prod.mk.inj (Option.some.inj read)).1.symm⟩
            · obtain ⟨members, _, same⟩ := Option.map_eq_some_iff.mp read
              exact ⟨members.1, (Prod.mk.inj same).1.symm⟩
          rw [if_neg isObject] at read
          by_cases isArray : byte = openBracket
          · refine Or.inr (Or.inl ⟨isArray, ?_⟩)
            rw [if_pos isArray] at read
            split at read
            · exact ⟨[], (Prod.mk.inj (Option.some.inj read)).1.symm⟩
            · obtain ⟨items, _, same⟩ := Option.map_eq_some_iff.mp read
              exact ⟨items.1, (Prod.mk.inj same).1.symm⟩
          rw [if_neg isArray] at read
          by_cases isString : byte = quote
          · refine Or.inr (Or.inr (Or.inl ⟨isString, ?_⟩))
            rw [if_pos isString] at read
            obtain ⟨⟨content, after⟩, content_, same⟩ := Option.map_eq_some_iff.mp read
            obtain ⟨sameValue, sameRest⟩ := Prod.mk.inj same
            simp only at sameValue sameRest
            exact ⟨content, sameValue.symm, sameRest ▸ content_⟩
          · rw [if_neg isString] at read
            exact Or.inr (Or.inr (Or.inr read))

/-- The text of an array begins with its bracket. -/
theorem skip_of_parse_array {items : List Value} (parsed : parse bytes = some (.array items)) :
    ∃ more, skip bytes = openBracket :: more := by
  obtain ⟨⟨value, rest⟩, read, ends⟩ := Option.bind_eq_some_iff.mp parsed
  obtain ⟨_, sameValue⟩ : skip rest = [] ∧ value = .array items := by
    simpa using ends
  obtain ⟨byte, more, starts, kinds⟩ := readValue_cases read
  rcases kinds with ⟨_, members, isObject⟩ | ⟨rfl, _⟩ | ⟨_, content, isString, _⟩ | scalar
  · simp [sameValue] at isObject
  · exact ⟨more, starts⟩
  · simp [sameValue] at isString
  · exact absurd sameValue ((readScalar_scalar scalar).1 items)

/-- The text of an object begins with its brace. -/
theorem skip_of_parse_object {members : List (List UInt8 × Value)}
    (parsed : parse bytes = some (.object members)) :
    ∃ more, skip bytes = openBrace :: more := by
  obtain ⟨⟨value, rest⟩, read, ends⟩ := Option.bind_eq_some_iff.mp parsed
  obtain ⟨_, sameValue⟩ : skip rest = [] ∧ value = .object members := by
    simpa using ends
  obtain ⟨byte, more, starts, kinds⟩ := readValue_cases read
  rcases kinds with ⟨rfl, _⟩ | ⟨_, items, isArray⟩ | ⟨_, content, isString, _⟩ | scalar
  · exact ⟨more, starts⟩
  · simp [sameValue] at isArray
  · simp [sameValue] at isString
  · exact absurd sameValue ((readScalar_scalar scalar).2 members)

end Shapes

end JsonText
