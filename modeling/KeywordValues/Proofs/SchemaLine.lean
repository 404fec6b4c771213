import KeywordValues.CommandLine.Output
import KeywordValues.Proofs.Decimal
import KeywordValues.Proofs.TextRoundTrip
import KeywordValues.Proofs.TypeName

/-!
# A loaded schema is one line of JSON

The compact text of a JSON value has no control character in it, whatever its texts and names hold,
so the line that a loaded schema is printed on is the only one. Without doubles the line is read as
an object that tells every keyword, its value and every skipped name in order. So no other schema
has this line.
-/

namespace KeywordValues

/-! ## Texts without control characters -/

/-- No character of a text comes before the space. So the text does not go on in another line. -/
def Inline (cs : List Char) : Prop := ∀ c ∈ cs, 0x20 ≤ c.toNat

instance (cs : List Char) : Decidable (Inline cs) :=
  List.decidableBAll (fun c : Char ↦ 0x20 ≤ c.toNat) cs

namespace Inline

variable {c : Char} {cs ds : List Char} {ts : List (List Char)}

theorem newline_not_mem (h : Inline cs) : '\n' ∉ cs := fun hc ↦ absurd (h _ hc) (by decide)

theorem append (hcs : Inline cs) (hds : Inline ds) : Inline (cs ++ ds) := by
  intro c hc
  exact (List.mem_append.1 hc).elim (hcs c) (hds c)

theorem cons (hc : 0x20 ≤ c.toNat) (hcs : Inline cs) : Inline (c :: cs) :=
  List.forall_mem_cons.2 ⟨hc, hcs⟩

/-- A text between two characters. -/
theorem enclosed {a b : Char} (ha : 0x20 ≤ a.toNat) (h : Inline cs) (hb : 0x20 ≤ b.toNat) :
    Inline (a :: (cs ++ [b])) :=
  .cons ha (h.append (.cons hb nofun))

theorem joinComma (h : ∀ t ∈ ts, Inline t) : Inline (Json.joinComma ts) := by
  induction ts with
  | nil => exact nofun
  | cons t ts ih =>
      obtain ⟨ht, hts⟩ := List.forall_mem_cons.1 h
      cases ts with
      | nil => exact ht
      | cons u us => exact ht.append (.cons (by decide) (ih hts))

theorem of_signed (h : Decimal.Signed cs) : Inline cs := by
  intro c hc
  have hchar := h.chars c hc
  simp only [Decimal.isNumeralChar, Bool.or_eq_true, beq_iff_eq, Decimal.isDigit_eq] at hchar
  rcases hchar with (((hdigit | rfl) | rfl) | rfl) | rfl
  · have hlow := (Char.isDigit_iff_toNat.1 hdigit).1
    exact Nat.le_trans (by decide) hlow
  all_goals decide

theorem render_json (x : Float) : Inline (Decimal.Layout.json.render x) := by
  rcases Decimal.Layout.render_json_cases x with hx | hx
  · exact of_signed hx
  · rw [hx]
    decide

end Inline

namespace Json

open Quoted (encodeChar encode quote shortEscape? hexDigit)

theorem le_toNat_of_shortEscape? {l c : Char} (h : shortEscape? l = some c) : 0x20 ≤ l.toNat := by
  unfold shortEscape? at h
  split at h
  all_goals first
    | decide
    | cases h

theorem le_toNat_hexDigit {n : Nat} (h : n < 16) : 0x20 ≤ (hexDigit n).toNat := by
  revert n
  decide

/-- A control character is written with a backslash and other characters that are none. -/
theorem inline_encodeChar (c : Char) : Inline (encodeChar c) := by
  rcases Quoted.encodeChar_cases c with ⟨l, -, hl, hc⟩ | ⟨hlt, hc⟩ | ⟨-, -, hge, hc⟩
  · rw [hc]
    exact .cons (by decide) (.cons (le_toNat_of_shortEscape? hl) nofun)
  · have hhigh : 0x20 ≤ (hexDigit (c.toNat / 16)).toNat := le_toNat_hexDigit (by omega)
    have hlow : 0x20 ≤ (hexDigit (c.toNat % 16)).toNat := le_toNat_hexDigit (by omega)
    have hprefix : Inline ['\\', 'u', '0', '0'] := by decide
    rw [hc]
    exact hprefix.append (.cons hhigh (.cons hlow nofun))
  · rw [hc]
    exact .cons (Nat.le_of_not_lt hge) nofun

theorem inline_quote (cs : List Char) : Inline (quote cs) := by
  have hencode : Inline (encode cs) := by
    intro c hc
    obtain ⟨d, -, hd⟩ := List.mem_flatMap.1 hc
    exact inline_encodeChar d c hd
  exact .enclosed (by decide) hencode (by decide)

mutual

theorem inline_chars : (j : Json) → Inline j.chars
  | .null => by decide
  | .bool false => by decide
  | .bool true => by decide
  | .whole n => .of_signed (.integer n.val)
  | .double x => .render_json x
  | .string s => inline_quote s.toList
  | .array js => .enclosed (by decide) (.joinComma (inline_itemChars js)) (by decide)
  | .object ms => .enclosed (by decide) (.joinComma (inline_memberChars ms)) (by decide)

theorem inline_itemChars : (js : List Json) → ∀ t ∈ itemChars js, Inline t
  | [] => nofun
  | j :: js => List.forall_mem_cons.2 ⟨inline_chars j, inline_itemChars js⟩

theorem inline_memberChars : (ms : List (String × Json)) → ∀ t ∈ memberChars ms, Inline t
  | [] => nofun
  | (k, j) :: ms => List.forall_mem_cons.2
      ⟨(inline_quote k.toList).append (.cons (by decide) (inline_chars j)), inline_memberChars ms⟩

end

/-! ## Members of objects -/

/-- The value of an object at a name. -/
def member? (j : Json) (name : String) : Option Json := j.fields?.bind (·.get? name)

/-- Of the members of one name that an object lists, its text holds the last one. -/
theorem member?_sorted_object (ms : List (String × Json)) (name : String) :
    (sorted (.object ms)).member? name =
      (NameMap.ofList (ms.map fun m ↦ (m.1, m.2.sorted))).get? name := by
  rw [sorted_object, ofFields, member?, fields?, NameMap.ofList_eq (NameMap.ascending _),
    Option.bind_some]

end Json

/-! ## Keywords and their values -/

/-- An entry of a printed list gives a keyword and its value: it names the keyword, the type that
it names makes the value of the node that it holds, and it has the text that a reader is shown. -/
structure Describes (e : String × TypedValue) (j : Json) : Prop where
  keyword : j.member? "keyword" = some (.string e.1)
  value : ∃ typeName type form node,
    j.member? "data_type" = some (.string typeName) ∧ DataType.ofName typeName = .ok type ∧
      j.member? "value" = some form ∧ Node.ofJson form = .ok node ∧ type.convert node = .ok e.2
  display : j.member? "display" = some (.string e.2.display)

/-- An entry describes one keyword and one value of it. -/
theorem leftUnique_describes : Relator.LeftUnique Describes := by
  intro e e' j h h'
  have hname : Json.string e.1 = .string e'.1 :=
    Option.some.inj (h.keyword.symm.trans h'.keyword)
  obtain ⟨typeName, type, form, node, htypeName, htype, hform, hnode, hvalue⟩ := h.value
  obtain ⟨typeName', type', form', node', htypeName', htype', hform', hnode', hvalue'⟩ := h'.value
  cases htypeName.symm.trans htypeName'
  cases htype.symm.trans htype'
  cases hform.symm.trans hform'
  cases hnode.symm.trans hnode'
  exact Prod.ext (Json.string.inj hname) (Except.ok.inj (hvalue.symm.trans hvalue'))

/-- No value of a loaded schema holds a double. -/
def LoadedSchema.Exact (l : LoadedSchema) : Prop := ∀ e ∈ l.toList, e.2.toNode.Exact

namespace CommandLine.Output

open Json (Plain)

variable {e : String × TypedValue} {l : LoadedSchema}

theorem plain_keywordJson (h : e.2.toNode.Exact) (n : Nat) : Plain (n + 2) (keywordJson e) := by
  have hvalue : Plain (n + 1) e.2.toJson := (h.toJson n).plain
  apply Plain.object
  simp only [List.forall_mem_cons]
  exact ⟨.string _, .string _, hvalue, .string _, nofun⟩

/-- The printed entry of a keyword describes it. -/
theorem describes_sorted_keywordJson (h : e.2.toNode.Exact) :
    Describes e (keywordJson e).sorted := by
  have hvalue : e.2.toJson.sorted = e.2.toJson := (h.toJson 0).sorted_eq
  have htype : DataType.ofName e.2.dataType.name = .ok e.2.dataType := by
    rw [DataType.ofName, DataType.ofName?_name]
  refine ⟨?_, ⟨e.2.dataType.name, _, e.2.toJson, _, ?_, htype, ?_,
    TypedValue.ofJson_toJson h.finite, DataType.convert_toNode e.2⟩, ?_⟩
  all_goals
    simp [keywordJson, Json.member?_sorted_object, NameMap.ofList, hvalue, DataType.toJson,
      Json.sorted_string]

theorem plain_schemaJson (h : l.Exact) : Plain Json.Reader.maxLevels (schemaJson l) := by
  have hkeywords : Plain 126 (.array (l.toList.map keywordJson)) := by
    refine .array (List.forall_mem_map.2 fun e he ↦ ?_)
    exact plain_keywordJson (h e he) 123
  have hskipped : Plain 126 (.array (l.skipped.map .string)) := by
    refine .array (List.forall_mem_map.2 fun name _ ↦ ?_)
    exact .string name
  apply Plain.object
  simp only [List.forall_mem_cons]
  exact ⟨.string _, hkeywords, hskipped, nofun⟩

theorem keywords_sorted_schemaJson (l : LoadedSchema) : (schemaJson l).sorted.member? "keywords" =
    some (.array (l.toList.map fun e ↦ (keywordJson e).sorted)) := by
  simp [schemaJson, schemaId, Json.member?_sorted_object, NameMap.ofList, Json.sorted_array,
    Function.comp_def]

theorem skipped_sorted_schemaJson (l : LoadedSchema) : (schemaJson l).sorted.member? "skipped" =
    some (.array (l.skipped.map .string)) := by
  simp [schemaJson, schemaId, Json.member?_sorted_object, NameMap.ofList, Json.sorted_array,
    Json.sorted_string, Function.comp_def]

/-- What the line of a loaded schema holds: a list of entries, one for each keyword and in their
order, and the names that were skipped. -/
structure Tells (l : LoadedSchema) (j : Json) : Prop where
  keywords : ∃ entries, j.member? "keywords" = some (.array entries) ∧
    List.Forall₂ Describes l.toList entries
  skipped : j.member? "skipped" = some (.array (l.skipped.map .string))

theorem tells_sorted_schemaJson (h : l.Exact) : Tells l (schemaJson l).sorted where
  keywords := by
    refine ⟨_, keywords_sorted_schemaJson l, ?_⟩
    rw [List.forall₂_map_right_iff, List.forall₂_same]
    intro e he
    exact describes_sorted_keywordJson (h e he)
  skipped := skipped_sorted_schemaJson l

/-- One value tells one loaded schema. -/
theorem Tells.unique {l' : LoadedSchema} {j : Json} (h : Tells l j) (h' : Tells l' j) : l = l' := by
  obtain ⟨entries, hentries, hall⟩ := h.keywords
  obtain ⟨entries', hentries', hall'⟩ := h'.keywords
  cases hentries.symm.trans hentries'
  have hlist : l.toList = l'.toList := leftUnique_describes.forall₂ hall hall'
  have hskipped : l.skipped.map Json.string = l'.skipped.map Json.string :=
    Json.array.inj (Option.some.inj (h.skipped.symm.trans h'.skipped))
  have hnames : l.skipped = l'.skipped :=
    List.map_injective_iff.2 (fun _ _ ↦ Json.string.inj) hskipped
  obtain ⟨values, skipped⟩ := l
  obtain ⟨values', skipped'⟩ := l'
  obtain rfl : values = values' := NameMap.ext_entries hlist
  obtain rfl : skipped = skipped' := hnames
  rfl

/-- A loaded schema without doubles is printed on a single line of JSON, which is read as a value
that tells it, with or without the line feed. No other such schema has the same line. -/
theorem schema_json_tells (l : LoadedSchema) (h : l.Exact) :
    ∃ text j, schema .json l = text ++ "\n" ∧ '\n' ∉ text.toList ∧
      Json.read text = .ok j ∧ Json.read (schema .json l) = .ok j ∧ Tells l j ∧
      ∀ l' : LoadedSchema, l'.Exact → schema .json l' = schema .json l → l' = l := by
  have hread {l : LoadedSchema} (h : l.Exact) :
      Json.read (schema .json l) = .ok (schemaJson l).sorted :=
    Json.read_print_append (plain_schemaJson h) rfl
  have hbare : Json.read ((schemaJson l).print ++ "") = .ok (schemaJson l).sorted :=
    Json.read_print_append (plain_schemaJson h) rfl
  rw [String.append_empty] at hbare
  refine ⟨(schemaJson l).print, (schemaJson l).sorted, rfl, ?_, hbare, hread h,
    tells_sorted_schemaJson h, fun l' h' hl ↦ ?_⟩
  · rw [Json.toList_print]
    exact (Json.inline_chars _).newline_not_mem
  · -- the line holds one value, and it tells both schemas
    have hsame := hread h'
    rw [hl, hread h] at hsame
    have htells : Tells l (schemaJson l').sorted :=
      Except.ok.inj hsame ▸ tells_sorted_schemaJson h
    exact (tells_sorted_schemaJson h').unique htells

/-- Line feeds, quotes, backslashes and other control characters may stand anywhere in a loaded
schema. -/
theorem schema_json_tells_escapes :
    let l : LoadedSchema :=
      ⟨⟨[("a\nb", .array .string ["\"\\", "\t\x01"])], List.pairwise_singleton ..⟩, ["\n", "\""]⟩
    l.Exact ∧ ∃ text j, schema .json l = text ++ "\n" ∧ '\n' ∉ text.toList ∧
      Json.read text = .ok j ∧ Tells l j := by
  intro l
  have hexact : l.Exact := by
    intro e he
    obtain rfl := List.mem_singleton.1 he
    show ∀ s ∈ [Scalar.string "\"\\", .string "\t\x01"], s.kind ≠ .number
    decide
  obtain ⟨text, j, htext, hline, hread, -, htells, -⟩ := schema_json_tells l hexact
  exact ⟨hexact, text, j, htext, hline, hread, htells⟩

end CommandLine.Output

end KeywordValues
