import Reconciler.Json.Printer
import Reconciler.Json.Reader
import Reconciler.Proofs.DocumentValues

/-!
# Reading what was rendered

A tidy value that was rendered as text is read back as a document that shows it.  The proof
follows the text: characters, texts, then the parts of lists and objects.  Fuel counts
calls, and no value needs more calls than its text has characters.
-/

namespace Reconciler

namespace Json

/-! ## Texts -/

theorem hexDigits_hexPair : ∀ number < 32,
    (hexPair number).map Cursor.hexDigit? = [some (number / 16), some (number % 16)] := by
  decide

theorem escapedChar_ne_nil (char : Char) : escapedChar char ≠ [] := by
  unfold escapedChar
  repeat' split
  all_goals simp

theorem exists_hexFour_hexPair {number : Nat} (small : number < 32) (rest : List Char)
    (mark : Mark) : ∃ behind, Cursor.hexFour ⟨'0' :: '0' :: (hexPair number ++ rest), mark⟩ =
      .ok (number, ⟨rest, behind⟩) := by
  have digits := hexDigits_hexPair number small
  obtain ⟨high, tail, pair, highValue, lowDigits⟩ := List.map_eq_cons_iff.mp digits
  obtain ⟨low, others, rfl, lowValue, none⟩ := List.map_eq_cons_iff.mp lowDigits
  rw [List.map_eq_nil_iff.mp none] at pair
  have zero : Cursor.hexDigit? '0' = some 0 := by decide
  refine ⟨['0', '0', high, low].foldl Mark.after mark, ?_⟩
  simp only [pair, Cursor.hexFour, zero, highValue, lowValue, List.cons_append, List.nil_append,
    Except.ok.injEq, Prod.mk.injEq, and_true]
  omega

theorem exists_codePoint_hexPair {char : Char} (small : char.toNat < 32) (rest : List Char)
    (mark : Mark) : ∃ behind, Cursor.codePoint ⟨'0' :: '0' :: (hexPair char.toNat ++ rest), mark⟩ =
      .ok (char, ⟨rest, behind⟩) := by
  obtain ⟨behind, four⟩ := exists_hexFour_hexPair small rest mark
  have low : ¬(0xdc00 ≤ char.toNat ∧ char.toNat ≤ 0xdfff) := by omega
  have alone : char.toNat < 0xd800 := by omega
  refine ⟨behind, ?_⟩
  simp [Cursor.codePoint, four, bind, Except.bind, pure, Except.pure, low, alone, Char.ofNat_toNat]

/-- Reading goes on behind a character as it was written. -/
theorem exists_textBody_escapedChar (fuel : Nat) (read rest : List Char) (char : Char)
    (mark : Mark) : ∃ behind, Cursor.textBody (fuel + 1) read ⟨escapedChar char ++ rest, mark⟩ =
      Cursor.textBody fuel (char :: read) ⟨rest, behind⟩ := by
  unfold escapedChar
  split
  · rename_i quote
    subst quote
    exact ⟨_, rfl⟩
  split
  · rename_i backslash
    subst backslash
    exact ⟨_, rfl⟩
  split
  · rename_i newline
    subst newline
    exact ⟨_, rfl⟩
  split
  · rename_i carriage
    subst carriage
    exact ⟨_, rfl⟩
  split
  · rename_i tabulator
    subst tabulator
    exact ⟨_, rfl⟩
  split
  · rename_i backspace
    have same : char = '\x08' := Char.toNat_inj.mp backspace
    subst same
    exact ⟨_, rfl⟩
  split
  · rename_i feed
    have same : char = '\x0c' := Char.toNat_inj.mp feed
    subst same
    exact ⟨_, rfl⟩
  split
  · rename_i control
    obtain ⟨behind, decoded⟩ := exists_codePoint_hexPair control rest
      ((mark.after '\\').after 'u')
    refine ⟨behind, ?_⟩
    simp [Cursor.textBody, Cursor.escape, decoded]
  · rename_i quote backslash _ _ _ _ _ printed
    exact ⟨mark.after char, by simp [Cursor.textBody, quote, backslash, printed]⟩

theorem exists_textBody_written (value : List Char) {fuel : Nat} (read rest : List Char)
    (mark : Mark) (enough : value.length < fuel) :
    ∃ behind, Cursor.textBody fuel read ⟨value.flatMap escapedChar ++ '"' :: rest, mark⟩ =
      .ok (String.ofList (read.reverse ++ value), ⟨rest, behind⟩) := by
  induction value generalizing fuel read mark with
  | nil =>
      obtain ⟨fuel, rfl⟩ := Nat.exists_eq_add_of_lt enough
      exact ⟨mark.after '"', by simp [Cursor.textBody]⟩
  | cons char value ih =>
      obtain ⟨fuel, rfl⟩ : ∃ more, fuel = more + 1 := ⟨fuel - 1, by omega⟩
      rw [List.flatMap_cons, List.append_assoc]
      obtain ⟨next, step⟩ := exists_textBody_escapedChar fuel read
        (value.flatMap escapedChar ++ '"' :: rest) char mark
      obtain ⟨behind, later⟩ := ih (char :: read) next (by simpa using enough)
      refine ⟨behind, ?_⟩
      rw [step, later, List.reverse_cons, List.append_assoc, List.singleton_append]

theorem length_le_flatMap_escapedChar (value : List Char) :
    value.length ≤ (value.flatMap escapedChar).length := by
  induction value with
  | nil => exact Nat.le_refl 0
  | cons char value ih =>
      have some := List.length_pos_of_ne_nil (escapedChar_ne_nil char)
      rw [List.flatMap_cons, List.length_append, List.length_cons]
      omega

theorem renderText_toList (value : String) :
    (renderText value).toList = '"' :: (value.toList.flatMap escapedChar ++ ['"']) := by
  rw [renderText, String.toList_ofList, List.cons_append]

/-- A text is read behind its opening quote, with as much fuel as there are characters. -/
theorem exists_textBody_renderText (value : String) (rest : List Char) (mark : Mark) :
    ∃ chars behind, (renderText value).toList ++ rest = '"' :: chars ∧
      Cursor.textBody (chars.length + 1) [] ⟨chars, mark⟩ = .ok (value, ⟨rest, behind⟩) := by
  have enough :
      value.toList.length < (value.toList.flatMap escapedChar ++ '"' :: rest).length + 1 := by
    have longer := length_le_flatMap_escapedChar value.toList
    rw [List.length_append]
    omega
  obtain ⟨behind, read⟩ := exists_textBody_written value.toList [] rest mark enough
  refine ⟨value.toList.flatMap escapedChar ++ '"' :: rest, behind, ?_, ?_⟩
  · rw [renderText_toList, List.cons_append, List.append_assoc, List.singleton_append]
  · rw [read, List.reverse_nil, List.nil_append, String.ofList_toList]

/-! ## Parts of lists and objects -/

/-- Parts in a row, parted by commas; a comma comes first if a part stands before. -/
def row : Bool → List (List Char) → List Char
  | _, [] => []
  | first, part :: parts => (if first then [] else [',']) ++ part ++ row false parts

section Row

variable {α : Type} {renderAll : List α → String} {renderOne : α → String}

theorem toList_eq_row (nil : renderAll [] = "") (single : ∀ item, renderAll [item] = renderOne item)
    (more : ∀ item next items,
      renderAll (item :: next :: items) = renderOne item ++ "," ++ renderAll (next :: items))
    (items : List α) :
    (renderAll items).toList = row true (items.map fun item => (renderOne item).toList) := by
  have following : ∀ items item, (renderAll (item :: items)).toList =
      (renderOne item).toList ++ row false (items.map fun item => (renderOne item).toList) := by
    intro items
    induction items with
    | nil => exact fun item => by rw [single, List.map_nil, row, List.append_nil]
    | cons next items ih =>
        intro item
        rw [more, String.toList_append, String.toList_append, ih next, List.append_assoc]
        rfl
  cases items with
  | nil =>
      rw [nil]
      rfl
  | cons item items => exact following items item

end Row

/-- A field of an object as text. -/
def renderField (field : String × Json) : String :=
  renderText field.1 ++ ":" ++ render field.2

theorem renderItems_toList (items : List Json) :
    (renderItems items).toList = row true (items.map fun item => (render item).toList) :=
  toList_eq_row rfl (fun _ => rfl) (fun _ _ _ => rfl) items

theorem renderFields_toList (fields : List (String × Json)) :
    (renderFields fields).toList = row true (fields.map fun field => (renderField field).toList) :=
  toList_eq_row rfl (fun _ => rfl) (fun _ _ _ => rfl) fields

theorem render_list_toList (items : List Json) : (render (.list items)).toList =
    '[' :: (row true (items.map fun item => (render item).toList) ++ [']']) := by
  rw [render, String.toList_append, String.toList_append, renderItems_toList]
  rfl

theorem render_object_toList (fields : List (String × Json)) : (render (.object fields)).toList =
    '\x7b' :: (row true (fields.map fun field => (renderField field).toList) ++ ['\x7d']) := by
  rw [render, String.toList_append, String.toList_append, renderFields_toList]
  rfl

/-! ## Values -/

/-- The characters that tidy values begin with. -/
def starts : List Char :=
  ['t', 'f', '"', '[', '\x7b']

theorem Tidy.exists_start {depth : Nat} {json : Json} (tidy : Tidy depth json) :
    ∃ char ∈ starts, ∃ rest, (render json).toList = char :: rest := by
  cases tidy with
  | boolean value => cases value <;> exact ⟨_, by decide, _, rfl⟩
  | text value => exact ⟨_, by decide, _, renderText_toList value⟩
  | list => exact ⟨_, by decide, _, render_list_toList _⟩
  | object => exact ⟨_, by decide, _, render_object_toList _⟩

/-- Whatever text stands behind it, the rendering of a value is read as a document that
shows it, with as much fuel as it has characters. -/
def Readable (depth : Nat) (json : Json) : Prop :=
  ∀ fuel level rest mark, depth < level → (render json).toList.length ≤ fuel →
    ∃ document behind, readValue fuel level ⟨(render json).toList ++ rest, mark⟩ =
      (document, some ⟨rest, behind⟩) ∧ document.Shows json

theorem readItems_end (fuel depth : Nat) (first : Bool) (rest : List Char) (mark : Mark) :
    readItems (fuel + 1) depth first ⟨']' :: rest, mark⟩ = ([], some ⟨rest, mark.after ']'⟩) :=
  rfl

theorem readItems_step {fuel depth : Nat} {first : Bool} {char : Char} {chars : List Char}
    {mark : Mark} {item : Document} {items : List Document} {behind : Cursor}
    {ending : Option Cursor} (start : char ∈ starts)
    (read : readValue fuel depth ⟨char :: chars, if first then mark else mark.after ','⟩ =
      (item, some behind))
    (others : readItems fuel depth false behind = (items, ending)) :
    readItems (fuel + 1) depth first
      ⟨(if first then [] else [',']) ++ char :: chars, mark⟩ = (item :: items, ending) := by
  simp only [starts, List.mem_cons, List.not_mem_nil, or_false] at start
  cases first <;> rcases start with rfl | rfl | rfl | rfl | rfl <;>
    simp_all [readItems, Cursor.skipBlanks, Cursor.skipBlanks.go]

/-- The items of a list are read one after the other, up to its end. -/
theorem exists_readItems {depth : Nat} {items : List Json}
    (tidy : ∀ item ∈ items, Tidy depth item) (readable : ∀ item ∈ items, Readable depth item)
    {fuel level : Nat} (first : Bool) (rest : List Char) (mark : Mark) (deep : depth < level)
    (enough : (row first (items.map fun item => (render item).toList)).length < fuel) :
    ∃ documents behind, readItems fuel level first
        ⟨row first (items.map fun item => (render item).toList) ++ ']' :: rest, mark⟩ =
      (documents, some ⟨rest, behind⟩) ∧ List.Forall₂ Document.Shows documents items := by
  induction items generalizing fuel first mark with
  | nil =>
      obtain ⟨fuel, rfl⟩ : ∃ more, fuel = more + 1 := ⟨fuel - 1, by omega⟩
      exact ⟨[], mark.after ']', readItems_end fuel level first rest mark, .nil⟩
  | cons item items ih =>
      obtain ⟨fuel, rfl⟩ : ∃ more, fuel = more + 1 := ⟨fuel - 1, by omega⟩
      rw [List.map_cons, row, List.length_append, List.length_append] at enough
      obtain ⟨char, start, chars, begins⟩ := (tidy item List.mem_cons_self).exists_start
      have long : 0 < (render item).toList.length := by rw [begins]; exact Nat.succ_pos _
      obtain ⟨document, next, read, shows⟩ := readable item List.mem_cons_self fuel level
        (row false (items.map fun item => (render item).toList) ++ ']' :: rest)
        (if first then mark else mark.after ',') deep (by omega)
      have shorter : (row false (items.map fun item => (render item).toList)).length < fuel := by
        omega
      obtain ⟨documents, behind, others, each⟩ :=
        ih (fun item member => tidy item (List.mem_cons_of_mem _ member))
          (fun item member => readable item (List.mem_cons_of_mem _ member)) false next shorter
      refine ⟨document :: documents, behind, ?_, .cons shows each⟩
      rw [begins] at read
      rw [List.map_cons, row, begins, List.append_assoc, List.append_assoc]
      exact readItems_step start read others

theorem readFields_end (fuel depth : Nat) (first : Bool) (rest : List Char) (mark : Mark) :
    readFields (fuel + 1) depth first ⟨'\x7d' :: rest, mark⟩ =
      ([], some ⟨rest, mark.after '\x7d'⟩) :=
  rfl

theorem readFields_step {fuel depth : Nat} {first : Bool} {name : String}
    {chars others : List Char} {mark colon : Mark} {item : Document}
    {fields : List (String × Option Mark × Document)} {behind : Cursor} {ending : Option Cursor}
    (named : Cursor.textBody (chars.length + 1) []
      ⟨chars, (if first then mark else mark.after ',').after '"'⟩ =
        .ok (name, ⟨':' :: others, colon⟩))
    (read : readValue fuel depth ⟨others, colon.after ':'⟩ = (item, some behind))
    (later : readFields fuel depth false behind = (fields, ending)) :
    readFields (fuel + 1) depth first ⟨(if first then [] else [',']) ++ '"' :: chars, mark⟩ =
      ((name, some colon, item) :: fields, ending) := by
  cases first <;>
    simp_all [readFields, pastValue, Cursor.skipBlanks, Cursor.skipBlanks.go]

/-- The fields of an object are read one after the other, up to its end. -/
theorem exists_readFields {depth : Nat} {entries : List (String × Json)}
    (readable : ∀ entry ∈ entries, Readable depth entry.2) {fuel level : Nat} (first : Bool)
    (rest : List Char) (mark : Mark) (deep : depth < level)
    (enough : (row first (entries.map fun entry => (renderField entry).toList)).length < fuel) :
    ∃ fields behind, readFields fuel level first
        ⟨row first (entries.map fun entry => (renderField entry).toList) ++ '\x7d' :: rest, mark⟩ =
      (fields, some ⟨rest, behind⟩) ∧ List.Forall₂ Document.ShowsField fields entries := by
  induction entries generalizing fuel first mark with
  | nil =>
      obtain ⟨fuel, rfl⟩ : ∃ more, fuel = more + 1 := ⟨fuel - 1, by omega⟩
      exact ⟨[], mark.after '\x7d', readFields_end fuel level first rest mark, .nil⟩
  | cons entry entries ih =>
      obtain ⟨fuel, rfl⟩ : ∃ more, fuel = more + 1 := ⟨fuel - 1, by omega⟩
      have written : (renderField entry).toList =
          (renderText entry.1).toList ++ ':' :: (render entry.2).toList := by
        rw [renderField, String.toList_append, String.toList_append, List.append_assoc]
        rfl
      rw [List.map_cons, row, written] at enough
      simp only [List.length_append, List.length_cons] at enough
      have shorter : (row false (entries.map fun entry => (renderField entry).toList)).length <
          fuel := by
        omega
      -- First the name, then the value, then the fields behind it.
      obtain ⟨chars, colon, begins, named⟩ := exists_textBody_renderText entry.1
        (':' :: ((render entry.2).toList ++
          (row false (entries.map fun entry => (renderField entry).toList) ++ '\x7d' :: rest)))
        ((if first then mark else mark.after ',').after '"')
      obtain ⟨document, next, read, shows⟩ := readable entry List.mem_cons_self fuel level
        (row false (entries.map fun entry => (renderField entry).toList) ++ '\x7d' :: rest)
        (colon.after ':') deep (by omega)
      obtain ⟨fields, behind, later, each⟩ :=
        ih (fun entry member => readable entry (List.mem_cons_of_mem _ member)) false next shorter
      refine ⟨(entry.1, some colon, document) :: fields, behind, ?_, .cons ⟨rfl, shows⟩ each⟩
      have split : row first ((entry :: entries).map fun entry => (renderField entry).toList) ++
          '\x7d' :: rest = (if first then [] else [',']) ++ '"' :: chars := by
        rw [← begins, List.map_cons, row, written]
        simp only [List.append_assoc, List.cons_append]
      rw [split]
      exact readFields_step named read later

theorem readValue_text {fuel level : Nat} {chars : List Char} {mark : Mark} {value : String}
    {behind : Cursor}
    (read : Cursor.textBody (chars.length + 1) [] ⟨chars, mark.after '"'⟩ = .ok (value, behind)) :
    readValue (fuel + 1) level ⟨'"' :: chars, mark⟩ =
      (.text (some ⟨mark, some behind.mark⟩) value, some behind) := by
  simp [readValue, Cursor.skipBlanks, Cursor.skipBlanks.go, scalar, read]

theorem readValue_list {fuel level : Nat} {chars : List Char} {mark : Mark}
    {items : List Document} {behind : Cursor} (deep : 1 < level)
    (read : readItems fuel (level - 1) true ⟨chars, mark.after '['⟩ = (items, some behind)) :
    readValue (fuel + 1) level ⟨'[' :: chars, mark⟩ =
      (.list (some ⟨mark, some behind.mark⟩) items, some behind) := by
  simp [readValue, Cursor.skipBlanks, Cursor.skipBlanks.go, Nat.not_le.mpr deep, read]

theorem readValue_object {fuel level : Nat} {chars : List Char} {mark : Mark}
    {fields : List (String × Option Mark × Document)} {behind : Cursor} (deep : 1 < level)
    (read : readFields fuel (level - 1) true ⟨chars, mark.after '\x7b'⟩ = (fields, some behind)) :
    readValue (fuel + 1) level ⟨'\x7b' :: chars, mark⟩ =
      (.object (some ⟨mark, some behind.mark⟩) fields, some behind) := by
  simp [readValue, Cursor.skipBlanks, Cursor.skipBlanks.go, Nat.not_le.mpr deep, read]

/-- Whatever is nested less deep than a reader can go is read back. -/
theorem Tidy.readable {depth : Nat} {json : Json} (tidy : Tidy depth json) :
    Readable depth json := by
  induction tidy with
  | boolean value =>
      intro fuel level rest mark _ enough
      have long : 0 < (render (.boolean value)).toList.length := by cases value <;> decide
      obtain ⟨fuel, rfl⟩ : ∃ more, fuel = more + 1 := ⟨fuel - 1, by omega⟩
      cases value <;> exact ⟨_, _, rfl, .boolean _ _, rfl⟩
  | text value =>
      intro fuel level rest mark _ enough
      rw [render, renderText_toList, List.length_cons] at enough
      obtain ⟨fuel, rfl⟩ : ∃ more, fuel = more + 1 := ⟨fuel - 1, by omega⟩
      obtain ⟨chars, behind, begins, read⟩ := exists_textBody_renderText value rest (mark.after '"')
      rw [render, begins]
      exact ⟨_, behind, readValue_text read, .text _ _, rfl⟩
  | @list depth items tidy ih =>
      intro fuel level rest mark deep enough
      rw [render_list_toList, List.length_cons, List.length_append] at enough
      obtain ⟨fuel, rfl⟩ : ∃ more, fuel = more + 1 := ⟨fuel - 1, by omega⟩
      have deeper : depth < level - 1 := by omega
      have shorter : (row true (items.map fun item => (render item).toList)).length < fuel := by
        simp only [List.length_singleton] at enough
        omega
      obtain ⟨documents, behind, read, each⟩ :=
        exists_readItems tidy ih true rest (mark.after '[') deeper shorter
      rw [render_list_toList, List.cons_append, List.append_assoc]
      exact ⟨_, behind, readValue_list (by omega) read, Document.shows_list _ each⟩
  | @object depth fields ordered tidy ih =>
      intro fuel level rest mark deep enough
      rw [render_object_toList, List.length_cons, List.length_append] at enough
      obtain ⟨fuel, rfl⟩ : ∃ more, fuel = more + 1 := ⟨fuel - 1, by omega⟩
      have deeper : depth < level - 1 := by omega
      have shorter : (row true (fields.map fun field => (renderField field).toList)).length <
          fuel := by
        simp only [List.length_singleton] at enough
        omega
      obtain ⟨documents, behind, read, each⟩ :=
        exists_readFields ih true rest (mark.after '\x7b') deeper shorter
      rw [render_object_toList, List.cons_append, List.append_assoc]
      exact ⟨_, behind, readValue_object (by omega) read, Document.shows_object _ ordered each⟩

/-- A tidy value that was rendered is read as a document that shows it, with nothing behind. -/
theorem Tidy.exists_readDocument {depth : Nat} {json : Json} (tidy : Tidy depth json)
    (deep : depth < depthLimit) :
    ∃ document, readDocument (render json) = (document, none) ∧ document.Shows json := by
  obtain ⟨document, behind, read, shows⟩ :=
    tidy.readable (2 * (render json).toList.length + 4) depthLimit [] Mark.start deep (by omega)
  rw [List.append_nil] at read
  refine ⟨document, ?_, shows⟩
  simp [readDocument, Cursor.ofText, read, Cursor.skipBlanks, Cursor.skipBlanks.go]

end Json

end Reconciler
