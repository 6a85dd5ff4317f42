import GeoTrack.JsonOccurrences
import GeoTrack.ReportAdmission

/-!
# The three shapes of a payload

The shape of a payload is decided on its bytes, before anything is parsed: an
array by its first character, an envelope by the key `"items"` somewhere in the
text, and what is left is taken for a single report.  The search also finds a
device of that name, and does not find a key that is spelled with escapes.

What the validation library makes of a JSON value is the parameter
`ReportSchema`; `Follows` says what the library is relied on for.
-/

namespace GeoTrack

open JsonText (Value)

/-- How the validation library reads JSON: what a spelled string says, which
integer a spelled number is, and which report a value stands for. -/
structure ReportSchema where
  text : Bytes → Option String
  integer : Bytes → Option ℤ
  report : Value → Option LocationReport

/-- The fields of a report, all of them required. -/
def reportFields : List String := ["device_id", "latitude", "longitude", "timestamp"]

namespace ReportSchema

variable (schema : ReportSchema)

def names (members : List (Bytes × Value)) : List (Option String) :=
  members.map fun member => schema.text member.1

def member? (members : List (Bytes × Value)) (name : String) : Option Value :=
  (members.find? fun member => schema.text member.1 = some name).map Prod.snd

/-- The sequence number of an envelope, absent and null being the same. -/
def seqOf : Option Value → Option (Option ℤ)
  | none => some none
  | some .null => some none
  | some (.number token) => (schema.integer token).map some
  | _ => none

/-- The text is a JSON object with the fields of this report. -/
def IsReport (raw : Bytes) (report : LocationReport) : Prop :=
  ∃ members, JsonText.parse raw = some (.object members) ∧
    (schema.names members).Perm (reportFields.map some) ∧
    schema.report (.object members) = some report

/-- The text is a JSON array of these reports. -/
def IsArray (raw : Bytes) (reports : List LocationReport) : Prop :=
  ∃ values, JsonText.parse raw = some (.array values) ∧
    values.map schema.report = reports.map some

/-- The text is a JSON envelope of these reports with this sequence number. -/
def IsEnvelope (raw : Bytes) (seq : Option ℤ) (reports : List LocationReport) : Prop :=
  ∃ members values, JsonText.parse raw = some (.object members) ∧
    (schema.names members).Nodup ∧
    (∀ name ∈ schema.names members, name = some "seq" ∨ name = some "items") ∧
    schema.member? members "items" = some (.array values) ∧
    values.map schema.report = reports.map some ∧
    schema.seqOf (schema.member? members "seq") = some seq

end ReportSchema

/-- The library returns well-formed reports, and refuses an object without a
field that its model requires. -/
structure Pydantic.Follows (pydantic : Pydantic) (schema : ReportSchema) : Prop where
  items : ∀ {maxItems raw reports}, schema.IsArray raw reports → reports.length ≤ maxItems →
    pydantic.items maxItems raw = .ok reports
  envelope : ∀ {maxItems raw seq reports}, schema.IsEnvelope raw seq reports →
    reports.length ≤ maxItems → pydantic.envelope maxItems raw = .ok (seq, reports)
  report : ∀ {raw report}, schema.IsReport raw report → pydantic.report raw = .ok report
  itemsRequired : ∀ {maxItems raw members}, JsonText.parse raw = some (.object members) →
    some "items" ∉ schema.names members → ∃ error, pydantic.envelope maxItems raw = .error error
  deviceRequired : ∀ {raw members}, JsonText.parse raw = some (.object members) →
    some "device_id" ∉ schema.names members → ∃ error, pydantic.report raw = .error error

section Stripping

variable {raw rest : Bytes} {byte : UInt8}

/-- White space of JSON is white space of `bytes.lstrip`. -/
theorem lstrip_of_skip (starts : JsonText.skip raw = byte :: rest)
    (solid : byte ∉ [32, 9, 10, 13, 11, 12]) : lstrip raw = byte :: rest := by
  have split := List.takeWhile_append_dropWhile (p := JsonText.isSpace) (l := raw)
  have blank : ∀ space ∈ raw.takeWhile JsonText.isSpace,
      decide (space ∈ [32, 9, 10, 13, 11, 12]) = true := by
    intro space listed
    have isSpace := List.all_eq_true.mp List.all_takeWhile space listed
    simp only [JsonText.isSpace, Bool.or_eq_true, decide_eq_true_eq] at isSpace
    rcases isSpace with ((rfl | rfl) | rfl) | rfl <;> decide
  rw [JsonText.skip] at starts
  rw [starts] at split
  rw [lstrip, ← split, List.dropWhile_append_of_pos blank,
    List.dropWhile_cons_of_neg (by simpa using solid)]

/-- What starts with a byte that is no white space is not lost by stripping. -/
theorem infix_lstrip_iff {key : Bytes} (solid : byte ∉ [32, 9, 10, 13, 11, 12]) :
    byte :: key <:+: lstrip raw ↔ byte :: key <:+: raw := by
  rw [lstrip]
  induction raw with
  | nil => rfl
  | cons first more ih =>
      by_cases blank : first ∈ [32, 9, 10, 13, 11, 12]
      · rw [List.dropWhile_cons_of_pos (by simpa using blank), ih, List.infix_cons_iff]
        constructor
        · exact Or.inr
        · rintro (isPrefix | inMore)
          · rw [List.cons_prefix_cons] at isPrefix
            exact absurd (isPrefix.1 ▸ blank) solid
          · exact inMore
      · rw [List.dropWhile_cons_of_neg (by simpa using blank)]

end Stripping

section Dispatch

variable {pydantic : Pydantic} {schema : ReportSchema} {maxItems : ℕ} {raw : Bytes}

theorem parseIngestPayload_of_array {values : List Value}
    (parsed : JsonText.parse raw = some (.array values)) {reports : List LocationReport}
    (nonempty : reports ≠ []) (validated : pydantic.items maxItems raw = .ok reports) :
    parseIngestPayload pydantic maxItems raw = .ok (none, reports) := by
  obtain ⟨more, starts⟩ := JsonText.skip_of_parse_array parsed
  have stripped := lstrip_of_skip starts (by decide)
  have opens : (lstrip raw).head? = some 91 := by rw [stripped]; rfl
  have something : lstrip raw ≠ [] := by simp [stripped]
  simp only [parseIngestPayload, if_neg something, if_pos opens, validated, Except.map,
    if_neg nonempty]

/-- An object is validated as an envelope if the key is found in its text, and
as a report otherwise. -/
def validateObject (pydantic : Pydantic) (maxItems : ℕ) (raw : Bytes) :
    Except ValidationError (Option ℤ × List LocationReport) :=
  if itemsKey <:+: raw then pydantic.envelope maxItems raw
  else (pydantic.report raw).map fun report => (none, [report])

theorem parseIngestPayload_of_object {members : List (Bytes × Value)}
    (parsed : JsonText.parse raw = some (.object members)) :
    (∀ seq items, validateObject pydantic maxItems raw = .ok (seq, items) → items ≠ [] →
        parseIngestPayload pydantic maxItems raw = .ok (seq, items)) ∧
      ∀ error, validateObject pydantic maxItems raw = .error error →
        ∃ problem, parseIngestPayload pydantic maxItems raw = .error problem := by
  obtain ⟨more, starts⟩ := JsonText.skip_of_parse_object parsed
  have stripped := lstrip_of_skip starts (by decide)
  have noArray : (lstrip raw).head? ≠ some 91 := by simp [stripped, JsonText.openBrace]
  have something : lstrip raw ≠ [] := by simp [stripped]
  have found : itemsKey <:+: lstrip raw ↔ itemsKey <:+: raw := infix_lstrip_iff (by decide)
  constructor
  · intro seq items validated nonempty
    rw [validateObject] at validated
    simp only [parseIngestPayload, if_neg something, if_neg noArray, found, validated,
      if_neg nonempty]
  · intro error refused
    rw [validateObject] at refused
    simp only [parseIngestPayload, if_neg something, if_neg noArray, found, refused]
    exact ⟨_, rfl⟩

theorem parseIngestPayload_envelope_iff (follows : pydantic.Follows schema) {seq : Option ℤ}
    {reports : List LocationReport} (isEnvelope : schema.IsEnvelope raw seq reports)
    (nonempty : reports ≠ []) (bounded : reports.length ≤ maxItems) :
    parseIngestPayload pydantic maxItems raw = .ok (seq, reports) ↔ itemsKey <:+: raw := by
  have validated := follows.envelope isEnvelope bounded
  obtain ⟨members, _, parsed, _, named, _⟩ := isEnvelope
  obtain ⟨accepts, refuses⟩ := @parseIngestPayload_of_object pydantic maxItems raw _ parsed
  constructor
  · intro agrees
    by_contra missed
    have noDevice : some "device_id" ∉ schema.names members := by
      intro listed
      simpa using named _ listed
    obtain ⟨error, refused⟩ := follows.deviceRequired parsed noDevice
    obtain ⟨problem, failed⟩ := refuses error (by
      rw [validateObject, if_neg missed, refused]
      rfl)
    simp [failed] at agrees
  · intro found
    apply accepts seq reports _ nonempty
    rw [validateObject, if_pos found]
    exact validated

theorem parseIngestPayload_report_iff (follows : pydantic.Follows schema)
    {report : LocationReport} (isReport : schema.IsReport raw report) :
    parseIngestPayload pydantic maxItems raw = .ok (none, [report]) ↔ ¬ itemsKey <:+: raw := by
  have validated := follows.report isReport
  obtain ⟨members, parsed, named, _⟩ := isReport
  obtain ⟨accepts, refuses⟩ := @parseIngestPayload_of_object pydantic maxItems raw _ parsed
  constructor
  · intro agrees found
    have noItems : some "items" ∉ schema.names members := by
      rw [named.mem_iff]
      decide
    obtain ⟨error, refused⟩ := @Pydantic.Follows.itemsRequired _ _ follows maxItems _ _ parsed noItems
    obtain ⟨problem, failed⟩ := refuses error (by rw [validateObject, if_pos found, refused])
    simp [failed] at agrees
  · intro missed
    apply accepts none [report] _ (List.cons_ne_nil _ _)
    rw [validateObject, if_neg missed, validated]
    rfl

end Dispatch

/-- All shapes in which these reports can be sent are parsed to them: the
array, the envelope, and the bare report if there is only one. -/
structure ShapesAgree (pydantic : Pydantic) (maxItems : ℕ) (reports : List LocationReport)
    (seq : Option ℤ) (array envelope bare : Bytes) : Prop where
  ofArray : parseIngestPayload pydantic maxItems array = .ok (none, reports)
  ofEnvelope : parseIngestPayload pydantic maxItems envelope = .ok (seq, reports)
  ofBare : ∀ report, reports = [report] →
    parseIngestPayload pydantic maxItems bare = .ok (none, [report])

/-- The shapes agree exactly if the search for the key finds it where there is
one and does not find it in a report. -/
theorem shapesAgree_iff (pydantic : Pydantic) (schema : ReportSchema)
    (follows : pydantic.Follows schema) (maxItems : ℕ) (reports : List LocationReport)
    (nonempty : reports ≠ []) (bounded : reports.length ≤ maxItems) (seq : Option ℤ)
    (array envelope bare : Bytes) (isArray : schema.IsArray array reports)
    (isEnvelope : schema.IsEnvelope envelope seq reports)
    (isBare : ∀ report, reports = [report] → schema.IsReport bare report) :
    ShapesAgree pydantic maxItems reports seq array envelope bare ↔
      itemsKey <:+: envelope ∧ (reports.length = 1 → ¬ itemsKey <:+: bare) := by
  constructor
  · intro agree
    refine ⟨(parseIngestPayload_envelope_iff follows isEnvelope nonempty bounded).mp
      agree.ofEnvelope, ?_⟩
    intro single
    obtain ⟨report, rfl⟩ := List.length_eq_one_iff.mp single
    exact (parseIngestPayload_report_iff follows (isBare report rfl)).mp (agree.ofBare report rfl)
  · rintro ⟨keyed, unkeyed⟩
    constructor
    · have validated := follows.items isArray bounded
      obtain ⟨values, parsed, _⟩ := isArray
      exact parseIngestPayload_of_array parsed nonempty validated
    · exact (parseIngestPayload_envelope_iff follows isEnvelope nonempty bounded).mpr keyed
    · rintro report rfl
      exact (parseIngestPayload_report_iff follows (isBare report rfl)).mpr (unkeyed rfl)

namespace ReportSchema

variable (schema : ReportSchema)

/-- A list of reports within the limit. -/
def validateItems (maxItems : ℕ) (values : List Value) :
    Except ValidationError (List LocationReport) :=
  if maxItems < values.length then .error ⟨[⟨"too_long", some values.length⟩]⟩
  else
    match values.mapM schema.report with
    | some reports => .ok reports
    | none => .error ⟨[⟨"missing", none⟩]⟩

def validateEnvelope (maxItems : ℕ) (members : List (Bytes × Value)) :
    Except ValidationError (Option ℤ × List LocationReport) :=
  match schema.member? members "items", schema.seqOf (schema.member? members "seq") with
  | some (.array values), some seq =>
      (schema.validateItems maxItems values).map fun reports => (seq, reports)
  | _, _ => .error ⟨[⟨"missing", none⟩]⟩

def validateReport (value : Value) (members : List (Bytes × Value)) :
    Except ValidationError LocationReport :=
  if (schema.names members).Perm (reportFields.map some) then
    match schema.report value with
    | some report => .ok report
    | none => .error ⟨[⟨"missing", none⟩]⟩
  else
    .error ⟨[⟨"missing", none⟩]⟩

/-- Validators that read a text and judge its value by the schema. -/
def pydantic : Pydantic where
  items maxItems raw :=
    match JsonText.parse raw with
    | some (.array values) => schema.validateItems maxItems values
    | _ => .error ⟨[⟨"list_type", none⟩]⟩
  envelope maxItems raw :=
    match JsonText.parse raw with
    | some (.object members) => schema.validateEnvelope maxItems members
    | _ => .error ⟨[⟨"model_type", none⟩]⟩
  report raw :=
    match JsonText.parse raw with
    | some (.object members) => schema.validateReport (.object members) members
    | _ => .error ⟨[⟨"model_type", none⟩]⟩

theorem mapM_of_reports {values : List Value} {reports : List LocationReport}
    (stand : values.map schema.report = reports.map some) :
    values.mapM schema.report = some reports := by
  induction values generalizing reports with
  | nil =>
      obtain rfl := List.map_eq_nil_iff.mp stand.symm
      rfl
  | cons value values ih =>
      cases reports with
      | nil => simp at stand
      | cons report reports =>
          obtain ⟨first, others⟩ := List.cons.inj stand
          rw [List.mapM_cons, first, ih others]
          rfl

theorem validateItems_of_reports {maxItems : ℕ} {values : List Value}
    {reports : List LocationReport} (stand : values.map schema.report = reports.map some)
    (bounded : reports.length ≤ maxItems) :
    schema.validateItems maxItems values = .ok reports := by
  have sameLength : values.length = reports.length := by
    simpa using congrArg List.length stand
  rw [validateItems, if_neg (by omega), schema.mapM_of_reports stand]

theorem member?_eq_none {members : List (Bytes × Value)} {name : String}
    (absent : some name ∉ schema.names members) : schema.member? members name = none := by
  rw [member?, Option.map_eq_none_iff, List.find?_eq_none]
  intro member listed named
  exact absent (List.mem_map.mpr ⟨member, listed, of_decide_eq_true named⟩)

theorem pydantic_follows : schema.pydantic.Follows schema where
  items := by
    rintro maxItems raw reports ⟨values, parsed, stand⟩ bounded
    simp only [pydantic, parsed]
    exact schema.validateItems_of_reports stand bounded
  envelope := by
    rintro maxItems raw seq reports ⟨members, values, parsed, _, _, items, stand, seq_⟩ bounded
    simp only [pydantic, parsed, validateEnvelope, items, seq_,
      schema.validateItems_of_reports stand bounded]
    rfl
  report := by
    rintro raw report ⟨members, parsed, named, stands⟩
    simp only [pydantic, parsed, validateReport, if_pos named, stands]
  itemsRequired := by
    intro maxItems raw members parsed absent
    simp only [pydantic, parsed, validateEnvelope, schema.member?_eq_none absent]
    exact ⟨_, rfl⟩
  deviceRequired := by
    intro raw members parsed absent
    have unlike : ¬ (schema.names members).Perm (reportFields.map some) := by
      intro named
      apply absent
      rw [named.mem_iff]
      decide
    simp only [pydantic, parsed, validateReport, if_neg unlike]
    exact ⟨_, rfl⟩

end ReportSchema

/-- What the library knows about spelling: plain letters say themselves, a quote
in a string stays one, and only the device of a report can be any word. -/
structure ReportSchema.Lawful (schema : ReportSchema) : Prop where
  plain : schema.text (JsonText.ascii "items") = some "items"
  quotes : ∀ {content said}, schema.text content = some said → JsonText.quote ∈ content →
    '"' ∈ said.toList
  device : ∀ {members report}, schema.report (.object members) = some report →
    ∃ content, schema.member? members "device_id" = some (.string content) ∧
      schema.text content = some report.deviceId
  others : ∀ {members report member}, schema.report (.object members) = some report →
    member ∈ members → schema.text member.1 ≠ some "device_id" →
    (∃ token, member.2 = .number token) ∨
      ∃ content said, member.2 = .string content ∧ schema.text content = some said ∧
        said ≠ "items" ∧ '"' ∉ said.toList

section Spelling

variable {schema : ReportSchema} {raw : Bytes} {report : LocationReport}

theorem itemsKey_eq : itemsKey = JsonText.quoted (JsonText.ascii "items") := by decide

theorem quotedWord_itemsKey : JsonText.QuotedWord itemsKey :=
  ⟨by decide +kernel, by decide +kernel⟩

theorem not_mem_of_deviceIdMatches {device : DeviceId} (named : deviceIdMatches device = true) :
    '"' ∉ device.toList := by
  intro listed
  have allowed := (Bool.and_eq_true _ _ ▸ named).2
  exact absurd (List.all_eq_true.mp allowed '"' listed) (by decide)

/-- A string that says something without quotes holds the key only if it is the
key. -/
theorem itemsKey_infix_iff (lawful : schema.Lawful) {content : Bytes} {said : String}
    (means : schema.text content = some said) (unquoted : '"' ∉ said.toList) :
    itemsKey <:+: JsonText.quoted content ↔ content = JsonText.ascii "items" := by
  have plain : JsonText.quote ∉ content := fun listed => unquoted (lawful.quotes means listed)
  rw [itemsKey_eq]
  exact JsonText.quoted_infix_quoted_iff plain

/-- The key is found in a report exactly if that is its device's name, spelled
without escapes. -/
theorem itemsKey_infix_report_iff (lawful : schema.Lawful) {members : List (Bytes × Value)}
    (parsed : JsonText.parse raw = some (.object members))
    (named : (schema.names members).Perm (reportFields.map some))
    (stands : schema.report (.object members) = some report) :
    itemsKey <:+: raw ↔
      schema.member? members "device_id" = some (.string (JsonText.ascii "items")) := by
  obtain ⟨content, isDevice, means⟩ := lawful.device stands
  rw [JsonText.infix_iff_occurs quotedWord_itemsKey parsed, JsonText.occurs_object_iff, isDevice,
    Option.some.injEq, Value.string.injEq]
  obtain ⟨entry, found, same⟩ := Option.map_eq_some_iff.mp isDevice
  have entryListed := List.mem_of_find?_eq_some found
  have isEntry : schema.text entry.1 = some "device_id" := by
    simpa using List.find?_some found
  constructor
  · rintro ⟨member, listed, inKey | inValue⟩
    · have name : schema.text member.1 ∈ reportFields.map some :=
        named.mem_iff.mp (List.mem_map_of_mem listed)
      obtain ⟨field, isField, field_⟩ := List.mem_map.mp name
      have unquoted : '"' ∉ field.toList ∧ field ≠ "items" :=
        (by decide : ∀ field ∈ reportFields, '"' ∉ field.toList ∧ field ≠ "items") field isField
      rw [itemsKey_infix_iff lawful field_.symm unquoted.1] at inKey
      rw [inKey, lawful.plain] at field_
      exact absurd (Option.some.inj field_) unquoted.2
    · by_cases ofDevice : schema.text member.1 = some "device_id"
      · have distinct : (members.map fun other => schema.text other.1).Nodup :=
          named.nodup_iff.mpr (by decide)
        obtain rfl := List.inj_on_of_nodup_map distinct listed entryListed
          (ofDevice.trans isEntry.symm)
        rw [same, JsonText.occurs_string_iff, itemsKey_infix_iff lawful means
          (not_mem_of_deviceIdMatches report.named)] at inValue
        exact inValue
      · rcases lawful.others stands listed ofDevice with ⟨token, isNumber⟩ |
          ⟨other, said, isString, meansSaid, different, unquoted⟩
        · rw [isNumber] at inValue
          obtain ⟨_, spells, _⟩ := inValue
          cases spells
        · rw [isString, JsonText.occurs_string_iff,
            itemsKey_infix_iff lawful meansSaid unquoted] at inValue
          rw [inValue, lawful.plain] at meansSaid
          exact absurd (Option.some.inj meansSaid).symm different
  · rintro rfl
    refine ⟨entry, entryListed, Or.inr ?_⟩
    rw [same, JsonText.occurs_string_iff, itemsKey_eq]

end Spelling

/-- The report of a device from the origin at the epoch. -/
def originReport (device : DeviceId) (named : deviceIdMatches device = true) :
    LocationReport :=
  { epochReport with deviceId := device, named := named }

/-- Bytes as characters, for texts without escapes. -/
def plainText (content : Bytes) : String :=
  String.ofList (content.map fun byte => Char.ofNat byte.toNat)

def isNumber : Value → Bool
  | .number _ => true
  | _ => false

/-- A schema for texts without escapes, numbers without signs and reports from
the origin at the epoch. -/
def originSchema : ReportSchema where
  text content := some (plainText content)
  integer token := some (token.foldl (fun number digit => number * 10 + (digit.toNat - 48)) 0)
  report value :=
    match value with
    | .object ((key, .string device) :: rest) =>
        if plainText key = "device_id" ∧ rest.all fun member => isNumber member.2 then
          if named : deviceIdMatches (plainText device) = true then
            some (originReport (plainText device) named)
          else
            none
        else
          none
    | _ => none

theorem originSchema_lawful : originSchema.Lawful where
  plain := by decide
  quotes := by
    rintro content said meansSaid listed
    obtain rfl := Option.some.inj meansSaid
    rw [plainText, String.toList_ofList]
    exact List.mem_map.mpr ⟨JsonText.quote, listed, rfl⟩
  device := by
    intro members report stands
    simp only [originSchema] at stands
    split at stands
    case h_2 => simp at stands
    case h_1 key device rest same =>
      obtain rfl := Value.object.inj same
      split at stands
      case isFalse => simp at stands
      case isTrue shape =>
        split at stands
        case isFalse => simp at stands
        case isTrue named =>
          obtain rfl := Option.some.inj stands
          refine ⟨device, ?_, rfl⟩
          simp [ReportSchema.member?, originSchema, shape.1]
  others := by
    intro members report member stands listed other
    simp only [originSchema] at stands
    split at stands
    case h_2 => simp at stands
    case h_1 key device rest same =>
      obtain rfl := Value.object.inj same
      split at stands
      case isFalse => simp at stands
      case isTrue shape =>
        rcases List.mem_cons.mp listed with rfl | inRest
        · exact absurd (congrArg some shape.1) other
        · left
          have numeric := List.all_eq_true.mp shape.2 member inRest
          cases value : member.2 <;> simp [isNumber, value] at numeric ⊢

/-- A device's report from the origin at the epoch. -/
def originText (device : String) : Bytes :=
  JsonText.objectText
    [JsonText.memberText (JsonText.ascii "device_id") (JsonText.quoted (JsonText.ascii device)),
      JsonText.memberText (JsonText.ascii "latitude") (JsonText.ascii "0"),
      JsonText.memberText (JsonText.ascii "longitude") (JsonText.ascii "0"),
      JsonText.memberText (JsonText.ascii "timestamp") (JsonText.ascii "0")]

/-- The same report in an envelope. -/
def originEnvelope (device : String) : Bytes :=
  JsonText.objectText
    [JsonText.memberText (JsonText.ascii "seq") (JsonText.ascii "4"),
      JsonText.memberText (JsonText.ascii "items") (JsonText.arrayText [originText device])]

def originMembers (device : String) : List (Bytes × Value) :=
  [(JsonText.ascii "device_id", .string (JsonText.ascii device)),
    (JsonText.ascii "latitude", .number (JsonText.ascii "0")),
    (JsonText.ascii "longitude", .number (JsonText.ascii "0")),
    (JsonText.ascii "timestamp", .number (JsonText.ascii "0"))]

theorem reads_originText {device : String} (spelled : JsonText.Spelled (JsonText.ascii device)) :
    JsonText.Reads (originText device) (.object (originMembers device)) := by
  have zero : JsonText.Reads (JsonText.ascii "0") (.number (JsonText.ascii "0")) :=
    JsonText.reads_number (by decide) (by decide +kernel)
  have key : JsonText.Spelled (JsonText.ascii "device_id") :=
    JsonText.spelled_of_plain (by decide +kernel)
  apply JsonText.reads_object
  refine .cons ⟨_, rfl, key, JsonText.reads_quoted spelled⟩ (.cons ⟨_, rfl, ?_, zero⟩
    (.cons ⟨_, rfl, ?_, zero⟩ (.cons ⟨_, rfl, ?_, zero⟩ .nil)))
  · exact JsonText.spelled_of_plain (by decide +kernel)
  · exact JsonText.spelled_of_plain (by decide +kernel)
  · exact JsonText.spelled_of_plain (by decide +kernel)

theorem reads_originEnvelope {device : String}
    (spelled : JsonText.Spelled (JsonText.ascii device)) :
    JsonText.Reads (originEnvelope device)
      (.object [(JsonText.ascii "seq", .number (JsonText.ascii "4")),
        (JsonText.ascii "items", .array [.object (originMembers device)])]) := by
  have four : JsonText.Reads (JsonText.ascii "4") (.number (JsonText.ascii "4")) :=
    JsonText.reads_number (by decide) (by decide +kernel)
  have key : JsonText.Spelled (JsonText.ascii "items") := JsonText.spelled_of_plain (by decide +kernel)
  apply JsonText.reads_object
  refine .cons ⟨_, rfl, ?_, four⟩ (.cons ⟨_, rfl, key, ?_⟩ .nil)
  · exact JsonText.spelled_of_plain (by decide +kernel)
  · exact JsonText.reads_array (.cons (reads_originText spelled) .nil)

theorem report_originMembers {device : String} (named : deviceIdMatches device = true)
    (plain : plainText (JsonText.ascii device) = device) :
    originSchema.report (.object (originMembers device)) = some (originReport device named) := by
  have shape : plainText (JsonText.ascii "device_id") = "device_id" := by decide
  simp [originSchema, originMembers, plain, named, shape, isNumber]

theorem isReport_originText {device : String} (named : deviceIdMatches device = true)
    (spelled : JsonText.Spelled (JsonText.ascii device))
    (plain : plainText (JsonText.ascii device) = device) :
    originSchema.IsReport (originText device) (originReport device named) := by
  have names : originSchema.names (originMembers device) = reportFields.map some := by
    simp only [ReportSchema.names, originMembers, List.map_cons, List.map_nil]
    decide
  exact ⟨originMembers device, (reads_originText spelled).parse, names ▸ .refl _,
    report_originMembers named plain⟩

theorem isEnvelope_originEnvelope {device : String} (named : deviceIdMatches device = true)
    (spelled : JsonText.Spelled (JsonText.ascii device))
    (plain : plainText (JsonText.ascii device) = device) :
    originSchema.IsEnvelope (originEnvelope device) (some 4) [originReport device named] := by
  have four : originSchema.seqOf (some (.number (JsonText.ascii "4"))) = some (some 4) := by
    decide +kernel
  refine ⟨_, [.object (originMembers device)], (reads_originEnvelope spelled).parse, ?_, ?_, rfl,
    ?_, four⟩
  · simp only [ReportSchema.names, List.map_cons, List.map_nil]
    decide
  · simp only [ReportSchema.names, List.map_cons, List.map_nil]
    decide
  · rw [List.map_cons, List.map_nil, report_originMembers named plain]
    rfl

theorem isArray_originText {device : String} (named : deviceIdMatches device = true)
    (spelled : JsonText.Spelled (JsonText.ascii device))
    (plain : plainText (JsonText.ascii device) = device) :
    originSchema.IsArray (JsonText.arrayText [originText device]) [originReport device named] := by
  refine ⟨_, (JsonText.reads_array (.cons (reads_originText spelled) .nil)).parse, ?_⟩
  rw [List.map_cons, List.map_nil, report_originMembers named plain]
  rfl

/-- The shapes agree on a truck's report. -/
theorem shapesAgree_iff_truck :
    ShapesAgree originSchema.pydantic 10 [originReport "truck" (by decide)] (some 4)
      (JsonText.arrayText [originText "truck"]) (originEnvelope "truck") (originText "truck") := by
  have spelled : JsonText.Spelled (JsonText.ascii "truck") :=
    JsonText.spelled_of_plain (by decide +kernel)
  refine (shapesAgree_iff originSchema.pydantic originSchema originSchema.pydantic_follows 10
    [originReport "truck" (by decide)] (by simp) (by simp) (some 4) _ _ _
    (isArray_originText _ spelled (by decide)) (isEnvelope_originEnvelope _ spelled (by decide))
    ?_).mpr ⟨by decide +kernel, fun _ => by decide +kernel⟩
  intro report single
  obtain rfl := List.cons.inj single |>.1
  exact isReport_originText _ spelled (by decide)

/-- They do not agree on the report of a device called `items`. -/
theorem shapes_disagree_items :
    originSchema.pydantic.Follows originSchema ∧
      originSchema.IsReport (originText "items") (originReport "items" (by decide)) ∧
      ¬ ShapesAgree originSchema.pydantic 10 [originReport "items" (by decide)] (some 4)
        (JsonText.arrayText [originText "items"]) (originEnvelope "items")
        (originText "items") := by
  have spelled : JsonText.Spelled (JsonText.ascii "items") :=
    JsonText.spelled_of_plain (by decide +kernel)
  have isReport := isReport_originText (by decide : deviceIdMatches "items" = true) spelled
    (by decide)
  refine ⟨originSchema.pydantic_follows, isReport, ?_⟩
  intro agree
  have missed := (parseIngestPayload_report_iff originSchema.pydantic_follows isReport).mp
    (agree.ofBare _ rfl)
  exact missed (by decide +kernel)

end GeoTrack
