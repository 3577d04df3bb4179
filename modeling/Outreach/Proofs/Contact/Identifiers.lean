import Outreach.Operations
import Outreach.Proofs.Contact.RoundTrip
import Outreach.Proofs.Text.Numerals

/-!
# Identifiers from numbers and from texts

Identifiers stand in five places: in a contact, in its address, twice in an answer to a form, and in
a fact, and all of them are read alike. A value stands for an integer when it is that number or a
text that spells it between blanks (`Denotes`); it is an identifier when the integer fits a signed
word, and no identifier, rather than another one, in every other case. For a document this means
that the member sets its own field and nothing else, and never makes the document unreadable
(`TakesIn`), and for a fact that it is about the contact with the number that its member stands for
(`IsFactOf`).
-/

namespace Outreach

namespace Json

/-! ### Values that stand for an integer -/

/-- The number itself, and every text that spells it between blanks. -/
inductive Denotes (m : Int) : Json → Prop
  | number : Denotes m (.integer m)
  | spelled {before spelling after : List Char} (hbefore : ∀ c ∈ before, Text.isBlank c = true)
      (hspells : Text.Spells m spelling) (hafter : ∀ c ∈ after, Text.isBlank c = true) :
      Denotes m (.text (String.ofList (before ++ spelling ++ after)))

variable {v : Json} {m : Int} {n : Int64}

theorem denotes_integer_iff {k : Int} : (integer k).Denotes m ↔ k = m := by
  refine ⟨?_, ?_⟩
  · rintro ⟨⟩
    rfl
  · rintro rfl
    exact .number

theorem denotes_text_iff {s : String} :
    (text s).Denotes m ↔ Text.signed? (Text.trim s).toList = some m := by
  rw [Text.trim, String.toList_ofList, Text.signed?_trimBlanks_eq_some_iff]
  refine ⟨?_, ?_⟩
  · intro hdenotes
    cases hdenotes with
    | spelled hbefore hspells hafter =>
      exact ⟨_, _, _, String.toList_ofList, hbefore, hspells, hafter⟩
  · rintro ⟨before, spelling, after, hsplit, hbefore, hspells, hafter⟩
    rw [← String.ofList_toList (s := s), hsplit]
    exact .spelled hbefore hspells hafter

theorem identifier?_of_denotes (hdenotes : v.Denotes m) : v.identifier? = Text.fitInt64? m := by
  cases v with
  | integer k =>
    rw [← denotes_integer_iff.mp hdenotes]
    rfl
  | text s =>
    rw [identifier?, Text.readInt64, denotes_text_iff.mp hdenotes, Option.bind_some]
  | _ => cases hdenotes

theorem denotes_of_identifier? (hread : v.identifier? = some n) : v.Denotes n.toInt := by
  cases v with
  | integer k => exact denotes_integer_iff.mpr (Text.fitInt64?_eq_some_iff.mp hread)
  | text s =>
    obtain ⟨m, hsigned, hfits⟩ := Option.bind_eq_some_iff.mp hread
    rw [← Text.fitInt64?_eq_some_iff.mp hfits]
    exact denotes_text_iff.mpr hsigned
  | _ => cases hread

theorem identifier?_eq_some_iff : v.identifier? = some n ↔ v.Denotes n.toInt := by
  refine ⟨denotes_of_identifier?, ?_⟩
  intro hdenotes
  rw [identifier?_of_denotes hdenotes, Text.fitInt64?_eq_some_iff]

/-! ### Members that set a field -/

/-- A document with a value under a name reads as it does without this member, except that a field
is set. -/
def TakesIn {σ : Type} (read : Json → Except ShapeFault σ) (name : String) (set : σ → σ)
    (value : Json) : Prop :=
  ∀ before after, name ∉ Named.names (before ++ after) →
    read (.object (before ++ (name, value) :: after)) = set <$> read (.object (before ++ after))

section Members

variable {σ : Type} {step : σ → String × Json → Except ShapeFault σ} {set : σ → σ} {name : String}
  {before after : List (String × Json)}

/-- A field that the members of other names neither set nor look at may be set before them. -/
theorem foldlM_set
    (hothers : ∀ s member, member.1 ≠ name → step (set s) member = set <$> step s member)
    (hafter : name ∉ Named.names after) (first : σ) :
    after.foldlM step (set first) = set <$> after.foldlM step first := by
  induction after generalizing first with
  | nil => rfl
  | cons member rest ih =>
    obtain ⟨hmember, hrest⟩ := not_or.mp (mt List.mem_cons.mpr hafter)
    rw [List.foldlM_cons, List.foldlM_cons, hothers first member (Ne.symm hmember), bind_map_left,
      map_bind]
    exact bind_congr fun next => ih hrest next

theorem foldlM_insert {value : Json} (hvalue : ∀ s, step s (name, value) = .ok (set s))
    (hothers : ∀ s member, member.1 ≠ name → step (set s) member = set <$> step s member)
    (hafter : name ∉ Named.names after) (first : σ) :
    (before ++ (name, value) :: after).foldlM step first =
      set <$> (before ++ after).foldlM step first := by
  rw [List.foldlM_append, List.foldlM_append, map_bind]
  refine bind_congr fun middle => ?_
  rw [List.foldlM_cons, hvalue]
  exact foldlM_set hothers hafter middle

theorem takesIn_of_step {read : Json → Except ShapeFault σ} {first : σ} {value : Json}
    (hread : ∀ members, read (.object members) = members.foldlM step first)
    (hvalue : ∀ s, step s (name, value) = .ok (set s))
    (hothers : ∀ s member, member.1 ≠ name → step (set s) member = set <$> step s member) :
    TakesIn read name set value := by
  intro before after hfresh
  have hafter : name ∉ Named.names after := fun hmem =>
    hfresh (Named.mem_names_append.mpr (.inr hmem))
  rw [hread, hread]
  exact foldlM_insert hvalue hothers hafter first

end Members

end Json

/-! ### The five places -/

variable {v : Json} {id : Option Int64}

theorem Contact.readMember_set_id (c : Contact) (member : String × Json) (hne : member.1 ≠ "id") :
    readMember { c with id } member = (fun c => { c with id }) <$> readMember c member := by
  by_cases hknown : member.1 ∈ memberNames
  · obtain ⟨name, value⟩ := member
    simp only [memberNames, List.mem_cons, List.not_mem_nil, or_false] at hknown
    rcases hknown with rfl | rfl | rfl | rfl | rfl | rfl | rfl | rfl | rfl | rfl
    · exact absurd rfl hne
    all_goals simp only [readMember, map_bind, map_pure]
  · rw [readMember_of_notMem _ hknown, readMember_of_notMem _ hknown]
    rfl

theorem Address.readMember_set_id (a : Address) (member : String × Json) (hne : member.1 ≠ "id") :
    readMember { a with id } member = (fun a => { a with id }) <$> readMember a member := by
  by_cases hknown : member.1 ∈ memberNames
  · obtain ⟨name, value⟩ := member
    simp only [memberNames, List.mem_cons, List.not_mem_nil, or_false] at hknown
    rcases hknown with rfl | rfl | rfl | rfl | rfl | rfl | rfl | rfl
    · exact absurd rfl hne
    all_goals simp only [readMember, map_bind, map_pure]
    -- The coordinates are left, which cannot fail.
    all_goals rfl
  · rw [readMember_of_notMem _ hknown, readMember_of_notMem _ hknown]
    rfl

namespace FormAnswer

theorem readMember_set_form (a : FormAnswer) (member : String × Json)
    (hne : member.1 ≠ "form_id") :
    readMember { a with form := id } member =
      (fun a => { a with form := id }) <$> readMember a member := by
  unfold readMember
  split
  · contradiction
  all_goals rfl

theorem readMember_set_option (a : FormAnswer) (member : String × Json)
    (hne : member.1 ≠ "form_ref_id") :
    readMember { a with option := id } member =
      (fun a => { a with option := id }) <$> readMember a member := by
  unfold readMember
  split
  · rfl
  · contradiction
  all_goals rfl

theorem ofJson_object (members : List (String × Json)) :
    ofJson (.object members) = members.foldlM readMember {} := rfl

theorem ofJson_list (items : List Json) :
    ofJson (.list items) =
      if memberNames.length < items.length then .error (.tooLong items.length)
      else ofJson (.object (memberNames.zip items)) := rfl

theorem takesIn_form (v : Json) :
    v.TakesIn ofJson "form_id" fun a => { a with form := v.identifier? } :=
  Json.takesIn_of_step ofJson_object (fun _ => rfl) readMember_set_form

theorem takesIn_option (v : Json) :
    v.TakesIn ofJson "form_ref_id" fun a => { a with option := v.identifier? } :=
  Json.takesIn_of_step ofJson_object (fun _ => rfl) readMember_set_option

/-- In a list, the value at the place of a name sets the field like the member of that name. -/
theorem ofJson_list_of_takesIn (names : List String) (front : List Json)
    (set : Option Int64 → FormAnswer → FormAnswer) {name : String} {others : List String}
    (hnames : memberNames = names ++ name :: others) (hlength : names.length = front.length)
    (htakes : ∀ v : Json, v.TakesIn ofJson name (set v.identifier?))
    (hset : ∀ x y a, set x (set y a) = set x a) (v : Json) (rest : List Json) :
    ofJson (.list (front ++ v :: rest)) =
      set v.identifier? <$> ofJson (.list (front ++ .null :: rest)) := by
  have hfresh : name ∉ Named.names (names.zip front ++ others.zip rest) := by
    have hnodup : (names ++ name :: others).Nodup := hnames ▸ by decide
    have hname : name ∉ names ++ others := (List.nodup_middle.mp hnodup).notMem
    intro hmem
    rcases Named.mem_names_append.mp hmem with hfront | hrest
    · exact hname (List.mem_append_left _ (Named.mem_of_mem_names_zip hfront))
    · exact hname (List.mem_append_right _ (Named.mem_of_mem_names_zip hrest))
  have hread : ∀ v : Json, ¬ memberNames.length < (front ++ v :: rest).length →
      ofJson (.list (front ++ v :: rest)) =
        set v.identifier? <$> ofJson (.object (names.zip front ++ others.zip rest)) := by
    intro v hshort
    rw [← htakes v _ _ hfresh, ofJson_list, if_neg hshort, hnames, List.zip_append hlength,
      List.zip_cons_cons]
  by_cases hlong : memberNames.length < (front ++ v :: rest).length
  · have hlengths : (front ++ Json.null :: rest).length = (front ++ v :: rest).length := by simp
    rw [ofJson_list, ofJson_list, hlengths, if_pos hlong, if_pos hlong]
    rfl
  · rw [hread v hlong, hread .null (by simpa using hlong), Functor.map_map]
    simp only [hset]

end FormAnswer

theorem Contact.takesIn_id (v : Json) :
    v.TakesIn Contact.ofJson "id" fun c => { c with id := v.identifier? } :=
  Json.takesIn_of_step (fun _ => rfl) (fun _ => rfl) Contact.readMember_set_id

theorem Address.takesIn_id (v : Json) :
    v.TakesIn Address.ofJson "id" fun a => { a with id := v.identifier? } :=
  Json.takesIn_of_step (fun _ => rfl) (fun _ => rfl) Address.readMember_set_id

theorem Operations.factContact?_member {v : Json} {before after : List (String × Json)}
    (hfresh : Field.factContact ∉ Named.names (before ++ after)) :
    factContact? (.object (before ++ (Field.factContact, v) :: after)) = v.identifier? := by
  have hbefore : Named.get? Field.factContact before = none :=
    (Named.get?_eq_none_iff _ before).mpr fun hmem =>
      hfresh (Named.mem_names_append.mpr (.inl hmem))
  rw [factContact?, Json.get?, Named.get?_append, hbefore, Option.none_or, Named.get?, if_pos rfl,
    Option.bind_some]

/-- A fact about a contact: its member for the contact stands for the number. -/
def Json.IsFactOf (n : Int64) (fact : Json) : Prop :=
  ∃ members value, fact = .object members ∧ Named.get? "contact_id" members = some value ∧
    value.Denotes n.toInt

theorem Operations.factContact?_eq_some_iff {fact : Json} {n : Int64} :
    factContact? fact = some n ↔ fact.IsFactOf n := by
  simp only [factContact?, Option.bind_eq_some_iff, Json.get?_eq_some_iff,
    Json.identifier?_eq_some_iff]
  refine ⟨?_, ?_⟩
  · rintro ⟨value, ⟨members, hfact, hget⟩, hdenotes⟩
    exact ⟨members, value, hfact, hget, hdenotes⟩
  · rintro ⟨members, value, hfact, hget, hdenotes⟩
    exact ⟨value, ⟨members, hfact, hget⟩, hdenotes⟩

namespace Json

/-- What a value comes to as an identifier, wherever in a document it stands. -/
structure ReadsAs (v : Json) (id : Option Int64) : Prop where
  contact : v.TakesIn Contact.ofJson "id" fun c => { c with id }
  address : v.TakesIn Address.ofJson "id" fun a => { a with id }
  form : v.TakesIn FormAnswer.ofJson "form_id" fun a => { a with form := id }
  option : v.TakesIn FormAnswer.ofJson "form_ref_id" fun a => { a with option := id }
  formInList : ∀ rest, FormAnswer.ofJson (.list (v :: rest)) =
    (fun a => { a with form := id }) <$> FormAnswer.ofJson (.list (.null :: rest))
  optionInList : ∀ form rest, FormAnswer.ofJson (.list (form :: v :: rest)) =
    (fun a => { a with option := id }) <$> FormAnswer.ofJson (.list (form :: .null :: rest))
  fact : ∀ before after, Field.factContact ∉ Named.names (before ++ after) →
    Operations.factContact? (.object (before ++ (Field.factContact, v) :: after)) = id

theorem readsAs_iff {v : Json} {id : Option Int64} : v.ReadsAs id ↔ v.identifier? = id := by
  refine ⟨fun hreads => hreads.fact [] [] List.not_mem_nil, ?_⟩
  rintro rfl
  exact
    { contact := Contact.takesIn_id v
      address := Address.takesIn_id v
      form := FormAnswer.takesIn_form v
      option := FormAnswer.takesIn_option v
      formInList := FormAnswer.ofJson_list_of_takesIn [] [] (fun id a => { a with form := id })
        rfl rfl FormAnswer.takesIn_form (fun _ _ _ => rfl) v
      optionInList := fun form => FormAnswer.ofJson_list_of_takesIn ["form_id"] [form]
        (fun id a => { a with option := id }) rfl rfl FormAnswer.takesIn_option
        (fun _ _ _ => rfl) v
      fact := fun _ _ => Operations.factContact?_member }

/-- Identifiers are read alike wherever they stand, and a value comes to the same one in every
place. It comes to `n` exactly when it stands for `n`: the number, or a text that spells it, with a
sign or zeros in front if there are any, between blanks. A value that stands for an integer outside
the range of a signed word, or for none, comes to no identifier, and so does a float, even when it
is whole. -/
theorem identifiers_read_alike :
    (∀ v : Json, ∃! id, v.ReadsAs id) ∧
      (∀ (v : Json) (n : Int64), v.ReadsAs (some n) ↔ v.Denotes n.toInt) ∧
      (∀ (v : Json) (m : Int), v.Denotes m →
        m < Int64.minValue.toInt ∨ Int64.maxValue.toInt < m → v.ReadsAs none) ∧
      (∀ v : Json, (∀ m : Int, ¬ v.Denotes m) → v.ReadsAs none) ∧
      ∀ x : Float, (Json.float x).ReadsAs none := by
  simp only [readsAs_iff]
  refine ⟨fun v => ⟨v.identifier?, rfl, fun _ hid => hid.symm⟩, ?_, ?_, ?_, fun _ => rfl⟩
  · exact fun v n => identifier?_eq_some_iff
  · intro v m hdenotes hrange
    rw [identifier?_of_denotes hdenotes, Text.fitInt64?_eq_none hrange]
  · intro v hnone
    cases hread : v.identifier? with
    | none => rfl
    | some n => exact absurd (denotes_of_identifier? hread) (hnone n.toInt)

/-- The least signed word with a zero in front and between blanks beyond ASCII, the first number
above the greatest as a number and as a text, and a text that spells a float. -/
theorem identifiers_read_alike_at_limits :
    (Json.text "\u2003-09223372036854775808\u00a0").ReadsAs (some Int64.minValue) ∧
      (Json.integer 9223372036854775808).ReadsAs none ∧
      (Json.text " +9223372036854775808").ReadsAs none ∧ (Json.text "3.0").ReadsAs none := by
  obtain ⟨-, hsome, hbeyond, hnone, -⟩ := identifiers_read_alike
  have hleast : (Json.text "\u2003-09223372036854775808\u00a0").Denotes Int64.minValue.toInt :=
    denotes_text_iff.mpr (by decide)
  have habove : (Json.text " +9223372036854775808").Denotes 9223372036854775808 :=
    denotes_text_iff.mpr (by decide)
  have hfloat : ∀ m : Int, ¬ (Json.text "3.0").Denotes m := by
    intro m hdenotes
    cases denotes_text_iff.mp hdenotes
  exact ⟨(hsome _ _).mpr hleast, hbeyond _ _ .number (by decide), hbeyond _ _ habove (by decide),
    hnone _ hfloat⟩

end Json

end Outreach
