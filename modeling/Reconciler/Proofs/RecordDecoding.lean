import Mathlib.Data.Set.List
import Reconciler.Json.Decode
import Reconciler.Proofs.DocumentValues

/-!
# Decoders that read back what is written

A decoder inverts a writer if it reads every document that shows a written value as that
value.  A record is opened if each of its rules admits the value written at its name; then
the document of a field shows what was written there, and a field that was left out is
not found.
-/

namespace Reconciler

namespace Json

variable {α : Type}

/-! ## Decoders of single values -/

/-- A decoder reads what is written as the value that was written. -/
def Decoder.Inverts (decoder : Decoder α) (write : α → Json) : Prop :=
  ∀ document value, document.Shows (write value) → decoder document = .ok value

namespace Decoder

theorem text_inverts : text.Inverts .text := by
  intro document value shows
  obtain ⟨span, rfl⟩ := Document.eq_text_of_value shows.value
  rfl

theorem boolean_inverts : boolean.Inverts .boolean := by
  intro document value shows
  obtain ⟨span, rfl⟩ := Document.eq_boolean_of_value shows.value
  rfl

variable {decoder : Decoder α} {write : α → Json}

theorem optional_eq_map {document : Document} (solid : document.value ≠ .ok .null) :
    optional decoder document = (decoder document).map some := by
  cases document with
  | null span => exact absurd rfl solid
  | _ => rfl

theorem optional_cases {document : Document} {value : Option α}
    (read : optional decoder document = .ok value) :
    (document.value = .ok .null ∧ value = none) ∨
      (document.value ≠ .ok .null ∧
        ∃ inner, decoder document = .ok inner ∧ value = some inner) := by
  by_cases null : document.value = .ok .null
  · obtain ⟨span, rfl⟩ := Document.eq_null_of_value null
    exact .inl ⟨null, (Except.ok.inj read).symm⟩
  · rw [optional_eq_map null, map_eq_ok_iff] at read
    obtain ⟨inner, innerRead, same⟩ := read
    exact .inr ⟨null, inner, innerRead, same.symm⟩

/-- What may be `null` is read like what may not, as long as it is not written as `null`. -/
theorem Inverts.optional (inverts : decoder.Inverts write) (solid : ∀ value, write value ≠ .null)
    {document : Document} {value : α} (shows : document.Shows (write value)) :
    Decoder.optional decoder document = .ok (some value) := by
  have present : document.value ≠ .ok .null := fun null =>
    solid value (Except.ok.inj (shows.value.symm.trans null))
  rw [optional_eq_map present, inverts document value shows]
  rfl

theorem mapM_of_inverts (inverts : decoder.Inverts write) {documents : List Document}
    {values : List α} (shows : List.Forall₂ Document.Shows documents (values.map write)) :
    documents.mapM decoder = .ok values := by
  induction values generalizing documents with
  | nil =>
      cases shows
      rfl
  | cons value values ih =>
      rw [List.map_cons] at shows
      cases shows with
      | cons head rest =>
          rw [List.mapM_cons, inverts _ value head, ih rest]
          rfl

theorem listOf_inverts (inverts : decoder.Inverts write) :
    (listOf decoder).Inverts fun values => .list (values.map write) := by
  intro document values shows
  obtain ⟨span, documents, rfl, each⟩ := Document.eq_list_of_shows shows
  exact mapM_of_inverts inverts each

theorem foldlM_text {fields : List (String × Option Mark × Document)}
    {entries : List (String × String)} (dictionary : Dictionary String)
    (each : List.Forall₂ (fun field entry => Document.ShowsField field (entry.1, .text entry.2))
      fields entries) :
    fields.foldlM (fun dictionary field => do
        let value ← text field.2.2
        return dictionary.insert field.1 value) dictionary =
      Except.ok (entries.foldl (fun dictionary entry => dictionary.insert entry.1 entry.2)
        dictionary) := by
  induction each generalizing dictionary with
  | nil => rfl
  | @cons field entry fields entries head rest ih =>
      rw [List.foldlM_cons, List.foldl_cons, text_inverts _ _ head.shows, head.name]
      exact ih _

theorem textFields_inverts : (mapOf text).Inverts textFields := by
  intro document texts shows
  obtain ⟨span, fields, given, rfl, nodup, each, listed⟩ := Document.eq_object_of_shows shows
  rw [Document.names_of_showsField each] at nodup
  -- Every name is given once, so what is given at it is the text written there.
  have written : given ∈ Set.range (List.map (Prod.map id Json.text)) := by
    rw [Set.range_list_map]
    intro entry member
    rw [← Dictionary.mem_ofList_iff nodup, listed] at member
    obtain ⟨other, -, rfl⟩ := List.mem_map.mp member
    exact ⟨other, rfl⟩
  obtain ⟨entries, rfl⟩ := written
  rw [List.forall₂_map_right_iff] at each
  rw [Dictionary.entries_ofList_map] at listed
  have same : Dictionary.ofList entries = texts := by
    refine Dictionary.ext (List.map_injective_iff.mpr ?_ listed)
    exact Prod.map_injective.mpr ⟨Function.injective_id, fun _ _ => Json.text.inj⟩
  rw [← same]
  exact foldlM_text Dictionary.empty each

end Decoder

/-! ## Fields that are found -/

/-- The documents that a document gives to a record whose fields have these names. -/
def Document.given (names : List String) : Document → List (String × Document)
  | .object _ fields => fields.map fun field => (field.1, field.2.2)
  | .list _ items => names.zip items
  | _ => []

section Opening

variable {title : String} {rules : List FieldRule} {document : Document}

theorem find?_rule_isSome {name : String} (known : name ∈ rules.map FieldRule.name) :
    (rules.find? fun rule => rule.name == name).isSome = true := by
  obtain ⟨rule, member, rfl⟩ := List.mem_map.mp known
  exact List.find?_isSome.mpr ⟨rule, member, beq_self_eq_true _⟩

/-- What is found at a known name is what was given first, as it is not repeated. -/
theorem lookup_of_readObject {fields : List (String × Option Mark × Document)}
    {found result : List (String × Document)}
    (read : readObject false rules fields found = .ok result)
    {name : String} (known : name ∈ rules.map FieldRule.name) :
    Table.lookup name result =
      (Table.lookup name found).or
        (Table.lookup name (fields.map fun field => (field.1, field.2.2))) := by
  induction fields generalizing found with
  | nil =>
      rw [readObject, Except.ok.injEq] at read
      rw [read, List.map_nil, Table.lookup, Option.or_none]
  | cons field fields ih =>
      obtain ⟨other, mark, document⟩ := field
      rw [List.map_cons, Table.lookup]
      unfold readObject at read
      split at read
      · -- The field is unknown, so its name is another one.
        rename_i unknown
        have apart : other ≠ name := by
          rintro rfl
          simpa [unknown] using find?_rule_isSome known
        obtain ⟨_, -, later⟩ := bind_eq_ok_iff.mp read
        rw [ih later, if_neg apart]
      · split at read
        · cases read
        · rename_i fresh
          obtain ⟨_, -, later⟩ := bind_eq_ok_iff.mp read
          rw [ih later, Table.lookup_place]
          by_cases same : other = name
          · have absent : Table.lookup name found = none := by simpa [same] using fresh
            rw [if_pos same, if_pos same, absent]
            rfl
          · rw [if_neg same, if_neg same]

theorem readPositional_eq {span : Option Span} {length count : Nat} {documents : List Document}
    {found result : List (String × Document)}
    (read : readPositional title span length count rules documents found = .ok result) :
    result = found ++ (rules.map FieldRule.name).zip documents := by
  induction rules generalizing documents found with
  | nil =>
      cases documents with
      | nil =>
          rw [readPositional, Except.ok.injEq] at read
          rw [← read, List.zip_nil_right, List.append_nil]
      | cons extra documents => cases read
  | cons rule rules ih =>
      cases documents with
      | nil =>
          rw [readPositional] at read
          split at read
          · rw [ih read, List.zip_nil_right, List.zip_nil_right]
          · cases read
      | cons document documents =>
          rw [readPositional] at read
          obtain ⟨_, -, later⟩ := bind_eq_ok_iff.mp read
          rw [ih later, List.append_assoc]
          rfl

/-- A record that was opened has the fields that the document gives. -/
theorem find?_of_openRecord {fields : Fields}
    (opened : openRecord title rules document = .ok fields) {name : String}
    (known : name ∈ rules.map FieldRule.name) :
    fields.find? name = Table.lookup name (document.given (rules.map FieldRule.name)) := by
  cases document with
  | object span listed =>
      obtain ⟨found, read, same⟩ := bind_eq_ok_iff.mp opened
      cases same
      exact lookup_of_readObject read known
  | list span items =>
      obtain ⟨found, read, same⟩ := bind_eq_ok_iff.mp opened
      cases same
      have listed := readPositional_eq read
      rw [List.nil_append] at listed
      exact congrArg (Table.lookup name) listed
  | _ => cases opened

/-! ## Records that are opened -/

/-- A rule lets every document pass that shows the value. -/
def FieldRule.Admits (rule : FieldRule) (json : Json) : Prop :=
  ∀ document : Document, document.Shows json → rule.check document = .ok ()

/-- A rule is that of a field, and admits what is written there if it is not left out. -/
structure FieldRule.Fits (rule : FieldRule) (entry : String × Option Json) : Prop where
  name : rule.name = entry.1
  admits : ∀ json ∈ entry.2, rule.Admits json

/-- A field shows a value, or it is missing if there is none. -/
def Fields.Carries (fields : Fields) (name : String) : Option Json → Prop
  | none => fields.find? name = none
  | some json => ∃ document, fields.find? name = some document ∧ document.Shows json

theorem exists_readObject {fields : List (String × Option Mark × Document)}
    {found : List (String × Document)} (nodup : (fields.map Prod.fst).Nodup)
    (fresh : ∀ field ∈ fields, Table.lookup field.1 found = none)
    (admitted : ∀ field ∈ fields, ∃ rule,
      (rules.find? fun rule => rule.name == field.1) = some rule ∧
        rule.check field.2.2 = .ok ()) :
    ∃ result, readObject false rules fields found = .ok result := by
  induction fields generalizing found with
  | nil => exact ⟨found, rfl⟩
  | cons field fields ih =>
      obtain ⟨name, mark, document⟩ := field
      rw [List.map_cons, List.nodup_cons] at nodup
      obtain ⟨rule, known, checked⟩ := admitted _ List.mem_cons_self
      have absent := fresh _ List.mem_cons_self
      have later : ∀ field ∈ fields,
          Table.lookup field.1 (Table.place name document found) = none := by
        intro field member
        have apart : name ≠ field.1 := fun same =>
          nodup.1 (List.mem_map.mpr ⟨field, member, same.symm⟩)
        rw [Table.lookup_place, if_neg apart]
        exact fresh field (List.mem_cons_of_mem _ member)
      obtain ⟨result, read⟩ :=
        ih nodup.2 later fun field member => admitted field (List.mem_cons_of_mem _ member)
      refine ⟨result, ?_⟩
      simp only at known checked absent
      simp only [readObject, known, absent, checked, Option.isSome_none, Bool.and_false,
        Bool.false_eq_true, if_false]
      exact read

theorem exists_rule_of_fits {present : List (String × Option Json)}
    (fits : List.Forall₂ FieldRule.Fits rules present) (nodup : (present.map Prod.fst).Nodup)
    {name : String} {json : Json} (written : (name, some json) ∈ present) :
    ∃ rule, (rules.find? fun rule => rule.name == name) = some rule ∧ rule.Admits json := by
  induction fits with
  | nil => cases written
  | @cons rule entry rules present head rest ih =>
      rw [List.map_cons, List.nodup_cons] at nodup
      rw [List.find?_cons]
      rcases List.mem_cons.mp written with rfl | later
      · rw [beq_iff_eq.mpr head.name]
        exact ⟨rule, rfl, head.admits json rfl⟩
      · have apart : rule.name ≠ name := by
          rw [head.name]
          rintro rfl
          exact nodup.1 (List.mem_map.mpr ⟨_, later, rfl⟩)
        rw [beq_eq_false_iff_ne.mpr apart]
        exact ih nodup.2 later

theorem names_of_fits {present : List (String × Option Json)}
    (fits : List.Forall₂ FieldRule.Fits rules present) :
    rules.map FieldRule.name = present.map Prod.fst :=
  map_eq_map_of_paired fits fun _ _ rule => rule.name

section Shown

variable {present : List (String × Option Json)} {given : List (String × Json)}
  {listed : List (String × Option Mark × Document)}

theorem mem_given_iff (nodup : (present.map Prod.fst).Nodup) (once : (given.map Prod.fst).Nodup)
    (same : record given = recordOfPresent present) {name : String} {json : Json} :
    (name, json) ∈ given ↔ (name, some json) ∈ present := by
  have entries := Json.object.inj same
  rw [← mem_presentFields, ← Dictionary.mem_ofList_iff once, entries]
  exact Dictionary.mem_ofList_iff (nodup_presentFields nodup)

/-- A field that was found where it is listed carries what was written. -/
theorem carries_of_showsField (names : (listed.map Prod.fst).Nodup)
    (each : List.Forall₂ Document.ShowsField listed given) (nodup : (present.map Prod.fst).Nodup)
    (written : ∀ {name json}, (name, json) ∈ given ↔ (name, some json) ∈ present)
    {fields : Fields} {name : String} {json? : Option Json} (member : (name, json?) ∈ present)
    (found : fields.find? name =
      Table.lookup name (listed.map fun field => (field.1, field.2.2))) :
    fields.Carries name json? := by
  cases json? with
  | some json =>
      obtain ⟨field, entered, showsField⟩ := exists_of_mem_right each (written.mpr member)
      refine ⟨field.2.2, found.trans ((Table.lookup_eq_some_iff ?_).mpr ?_), showsField.shows⟩
      · rw [List.map_map]
        exact names
      · exact List.mem_map.mpr ⟨field, entered, by rw [showsField.name]⟩
  | none =>
      refine found.trans (Table.lookup_eq_none fun entered => ?_)
      rw [List.map_map] at entered
      obtain ⟨field, place, rfl⟩ := List.mem_map.mp entered
      obtain ⟨⟨_, json⟩, shown, showsField⟩ := exists_of_mem_left each place
      -- The name would be listed twice, left out and written.
      have twice := List.inj_on_of_nodup_map nodup member (written.mp shown) showsField.name
      cases twice

end Shown

/-- A document that shows a written record is opened, with what was written in each field. -/
theorem exists_openRecord {present : List (String × Option Json)}
    (fits : List.Forall₂ FieldRule.Fits rules present) (nodup : (present.map Prod.fst).Nodup)
    (shows : document.Shows (recordOfPresent present)) :
    ∃ fields, openRecord title rules document = .ok fields ∧
      ∀ entry ∈ present, fields.Carries entry.1 entry.2 := by
  obtain ⟨span, listed, given, rfl, names, each, same⟩ := Document.eq_object_of_shows shows
  have once := Document.names_of_showsField each ▸ names
  have written : ∀ {name json}, (name, json) ∈ given ↔ (name, some json) ∈ present :=
    mem_given_iff nodup once (congrArg Json.object same)
  obtain ⟨found, read⟩ : ∃ found, readObject false rules listed [] = .ok found := by
    refine exists_readObject names (fun _ _ => rfl) fun field member => ?_
    obtain ⟨⟨name, json⟩, entered, field⟩ := exists_of_mem_left each member
    obtain ⟨rule, known, admits⟩ := exists_rule_of_fits fits nodup (written.mp entered)
    exact ⟨rule, field.name ▸ known, admits _ field.shows⟩
  have opened : openRecord title rules (.object span listed) = .ok ⟨found, stopOf span⟩ :=
    bind_eq_ok_iff.mpr ⟨found, read, rfl⟩
  refine ⟨_, opened, fun entry member => ?_⟩
  have known : entry.1 ∈ rules.map FieldRule.name :=
    names_of_fits fits ▸ List.mem_map.mpr ⟨_, member, rfl⟩
  exact carries_of_showsField names each nodup written member (find?_of_openRecord opened known)

/-- A record is read if its fields are, as far as they show what was written. -/
theorem read_record {present : List (String × Option Json)} {next : Fields → Except Fault α}
    {value : α} (fits : List.Forall₂ FieldRule.Fits rules present)
    (nodup : (present.map Prod.fst).Nodup) (shows : document.Shows (recordOfPresent present))
    (reads : ∀ fields : Fields, (∀ entry ∈ present, fields.Carries entry.1 entry.2) →
      next fields = .ok value) :
    (openRecord title rules document >>= next) = .ok value := by
  obtain ⟨fields, opened, carries⟩ := exists_openRecord fits nodup shows
  exact bind_eq_ok_iff.mpr ⟨fields, opened, reads fields carries⟩

end Opening

/-! ## Reading the fields -/

section Reading

variable {fields : Fields} {name : String} {decoder : Decoder α} {write : α → Json}

theorem FieldRule.Fits.of_check {rule : FieldRule} {json? : Option Json}
    (checks : rule.check = fun document => (decoder document).map fun _ => ())
    (inverts : decoder.Inverts write) (written : ∀ json ∈ json?, ∃ value, write value = json) :
    rule.Fits (rule.name, json?) := by
  refine ⟨rfl, fun json present document shows => ?_⟩
  obtain ⟨value, rfl⟩ := written json present
  rw [checks]
  simp only [inverts document value shows]
  rfl

theorem FieldRule.Fits.required (inverts : decoder.Inverts write) (value : α) :
    (FieldRule.of name decoder).Fits (name, some (write value)) :=
  .of_check rfl inverts fun _ present => ⟨value, Option.some.inj present⟩

theorem FieldRule.Fits.optional (inverts : decoder.Inverts write)
    (solid : ∀ value, write value ≠ .null) (value : Option α) :
    (FieldRule.of name (Decoder.optional decoder)).Fits (name, value.map write) := by
  refine ⟨rfl, fun json present document shows => ?_⟩
  obtain ⟨inner, -, rfl⟩ := Option.map_eq_some_iff.mp present
  simp only [FieldRule.of, inverts.optional solid shows]
  rfl

namespace Fields

theorem required_of_carries (inverts : decoder.Inverts write) {value : α}
    (carries : fields.Carries name (some (write value))) :
    fields.required name decoder = .ok value := by
  obtain ⟨document, found, shows⟩ := carries
  rw [required, found]
  exact inverts document value shows

theorem optional_of_carries (inverts : decoder.Inverts write) (solid : ∀ value, write value ≠ .null)
    {value : Option α} (carries : fields.Carries name (value.map write)) :
    fields.optional name decoder = .ok value := by
  cases value with
  | none =>
      rw [optional, show fields.find? name = none from carries]
  | some value =>
      obtain ⟨document, found, shows⟩ := carries
      rw [optional, found]
      exact inverts.optional solid shows

theorem defaulted_of_carries (inverts : decoder.Inverts write) {value default : α}
    {json? : Option Json} (written : ∀ json ∈ json?, json = write value)
    (left : json? = none → value = default) (carries : fields.Carries name json?) :
    fields.defaulted name decoder default = .ok value := by
  cases json? with
  | none =>
      rw [defaulted, show fields.find? name = none from carries, left rfl]
  | some json =>
      obtain ⟨document, found, shows⟩ := carries
      rw [written json rfl] at shows
      rw [defaulted, found]
      exact inverts document value shows

end Fields

end Reading

/-! ## Fields that are left out -/

/-- A field counts as left out: it is missing, or has the value that stands for it then. -/
def LeftOut (blank : Option Json) (given : Option Document) : Prop :=
  ∀ document ∈ given, ∃ json ∈ blank, document.value = .ok json

theorem leftOut_none (blank : Option Json) : LeftOut blank none := by
  intro document given
  cases given

theorem leftOut_some_iff {json : Json} {document : Document} :
    LeftOut (some json) (some document) ↔ document.value = .ok json := by
  simp [LeftOut]

/-- A decoder takes texts and truth values for what is written as they are. -/
def Decoder.KeepsFlat (decoder : Decoder α) (write : α → Json) : Prop :=
  ∀ document value json, decoder document = .ok value → document.value = .ok json → Tidy 0 json →
    write value = json

/-- What is written in place of what was given: nothing exactly if that was left out, and a
text or a truth value as it was. -/
structure NormalForm (blank : Option Json) (given : Option Document) (written : Option Json) :
    Prop where
  left : written = none ↔ LeftOut blank given
  kept : ∀ document json, given = some document → document.value = .ok json → Tidy 0 json →
    blank ≠ some json → written = some json

/-- A field as it is written and what stands for it if it is left out are those of what was
found at its name. -/
structure Fields.Tidies (fields : Fields) (entry : String × Option Json)
    (blank : String × Option Json) : Prop where
  name : entry.1 = blank.1
  normal : NormalForm blank.2 (fields.find? blank.1) entry.2

namespace Decoder

theorem text_keepsFlat : text.KeepsFlat .text := by
  intro document value json read shown _
  cases document with
  | text span other =>
      cases read
      exact Except.ok.inj shown
  | _ => cases read

theorem boolean_keepsFlat : boolean.KeepsFlat .boolean := by
  intro document value json read shown _
  cases document with
  | boolean span other =>
      cases read
      exact Except.ok.inj shown
  | _ => cases read

variable {decoder : Decoder α} {write : α → Json}

theorem listOf_keepsFlat : (listOf decoder).KeepsFlat fun values => .list (values.map write) := by
  intro document values json read shown flat
  cases document with
  | list span items =>
      obtain ⟨_, -, rfl⟩ := map_eq_ok_iff.mp shown
      cases flat
  | _ => cases read

theorem textFields_keepsFlat : (mapOf text).KeepsFlat textFields := by
  intro document texts json read shown flat
  cases document with
  | object span fields =>
      obtain ⟨_, -, rfl⟩ := map_eq_ok_iff.mp shown
      cases flat
  | _ => cases read

end Decoder

namespace Fields.Tidies

variable {fields : Fields} {name : String} {decoder : Decoder α} {write : α → Json}

theorem required (keeps : decoder.KeepsFlat write) {value : α}
    (read : fields.required name decoder = .ok value) :
    fields.Tidies (name, some (write value)) (name, none) := by
  refine ⟨rfl, ?_⟩
  rw [Fields.required] at read
  split at read
  · rename_i document found
    simp only [found]
    refine ⟨iff_of_false (Option.some_ne_none _) fun left => ?_, ?_⟩
    · obtain ⟨json, none, -⟩ := left document rfl
      cases none
    · rintro _ json ⟨⟩ shown flat -
      rw [keeps document value json read shown flat]
  · cases read

theorem optional (keeps : decoder.KeepsFlat write) {value : Option α}
    (read : fields.optional name decoder = .ok value) :
    fields.Tidies (name, value.map write) (name, some .null) := by
  refine ⟨rfl, ?_⟩
  rw [Fields.optional] at read
  split at read
  · rename_i document found
    rw [found]
    rcases Decoder.optional_cases read with ⟨null, rfl⟩ | ⟨present, inner, innerRead, rfl⟩
    · refine ⟨iff_of_true rfl (leftOut_some_iff.mpr null), ?_⟩
      rintro _ json ⟨⟩ shown - apart
      exact absurd (congrArg some (Except.ok.inj (null.symm.trans shown))) apart
    · refine ⟨iff_of_false (Option.some_ne_none _) fun left => ?_, ?_⟩
      · exact present (leftOut_some_iff.mp left)
      · rintro _ json ⟨⟩ shown flat -
        rw [← keeps document inner json innerRead shown flat]
        rfl
  · rename_i missing
    cases read
    rw [missing]
    exact ⟨iff_of_true rfl (leftOut_none _), nofun⟩

theorem defaulted (keeps : decoder.KeepsFlat write) {value default : α}
    {blank : Json} {json? : Option Json}
    (exact : ∀ document value, decoder document = .ok value →
      (value = default ↔ document.value = .ok blank))
    (left : json? = none ↔ value = default) (written : ∀ json ∈ json?, json = write value)
    (read : fields.defaulted name decoder default = .ok value) :
    fields.Tidies (name, json?) (name, some blank) := by
  refine ⟨rfl, ?_⟩
  rw [Fields.defaulted] at read
  split at read
  · rename_i document found
    rw [found]
    refine ⟨left.trans ((exact document value read).trans leftOut_some_iff.symm), ?_⟩
    rintro _ json ⟨⟩ shown flat apart
    have present : json? ≠ none := by
      intro none
      have same := ((exact document value read).mp (left.mp none)).symm.trans shown
      exact apart (congrArg some (Except.ok.inj same))
    obtain ⟨other, rfl⟩ := Option.ne_none_iff_exists'.mp present
    rw [written other rfl, keeps document value json read shown flat]
  · rename_i missing
    rw [missing]
    exact ⟨iff_of_true (left.mpr (Except.ok.inj read).symm) (leftOut_none _), nofun⟩

end Fields.Tidies

theorem Decoder.boolean_eq_false_iff {document : Document} {value : Bool}
    (read : boolean document = .ok value) :
    value = false ↔ document.value = .ok (.boolean false) := by
  cases document with
  | boolean span other =>
      rw [boolean, Except.ok.injEq] at read
      simp [Document.value, read]
  | _ => cases read

theorem Decoder.listOf_eq_nil_iff {document : Document} {values : List α}
    (read : listOf decoder document = .ok values) :
    values = [] ↔ document.value = .ok (.list []) := by
  cases document with
  | list span items =>
      cases items with
      | nil =>
          cases read
          exact iff_of_true rfl rfl
      | cons item items =>
          rw [listOf, List.mapM_cons] at read
          obtain ⟨first, -, later⟩ := bind_eq_ok_iff.mp read
          obtain ⟨rest, -, same⟩ := bind_eq_ok_iff.mp later
          cases same
          refine iff_of_false (List.cons_ne_nil _ _) fun shown => ?_
          obtain ⟨given, shows, same⟩ := map_eq_ok_iff.mp shown
          cases same
          cases Document.values_eq_ok_iff.mp shows
  | _ => cases read

/-- What is written after reading has the listed fields in normal form, and no others.  With
each name stands the value that counts as left out. -/
structure Decoder.Normalises (decoder : Decoder α) (write : α → Json)
    (blanks : List (String × Option Json)) : Prop where
  listed : ∀ document value, decoder document = .ok value → ∀ entry ∈ blanks,
    NormalForm entry.2 (Table.lookup entry.1 (document.given (blanks.map Prod.fst)))
      ((write value).field? entry.1)
  unlisted : ∀ value name, name ∉ blanks.map Prod.fst → (write value).field? name = none

theorem Decoder.normalises_of_fields {decoder : Decoder α} {write : α → Json}
    {present : α → List (String × Option Json)} {blanks : List (String × Option Json)}
    (nodup : (blanks.map Prod.fst).Nodup)
    (writes : ∀ value, write value = recordOfPresent (present value))
    (names : ∀ value, (present value).map Prod.fst = blanks.map Prod.fst)
    (reads : ∀ document value, decoder document = .ok value → ∃ title rules fields,
      openRecord title rules document = .ok fields ∧
        rules.map FieldRule.name = blanks.map Prod.fst ∧
          List.Forall₂ fields.Tidies (present value) blanks) :
    decoder.Normalises write blanks := by
  refine ⟨fun document value read blank listed => ?_, fun value name other => ?_⟩
  · obtain ⟨title, rules, fields, opened, same, tidies⟩ := reads document value read
    have known : blank.1 ∈ rules.map FieldRule.name := same ▸ List.mem_map.mpr ⟨_, listed, rfl⟩
    obtain ⟨⟨name, json?⟩, written, field⟩ := exists_of_mem_right tidies listed
    rw [writes, ← field.name, field?_recordOfPresent (names value ▸ nodup) written, field.name,
      ← same, ← find?_of_openRecord opened known]
    exact field.normal
  · rw [writes]
    exact field?_recordOfPresent_eq_none (names value ▸ nodup) (names value ▸ other)

end Json

end Reconciler
