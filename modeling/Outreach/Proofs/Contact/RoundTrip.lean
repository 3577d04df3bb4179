import Outreach.Contact
import Outreach.Proofs.Fault.Steps
import Outreach.Proofs.Json.Reading

/-!
# Contacts read and written

A contact that is written and read again is the same contact, and a document that is read and
written again keeps every member that is not modelled. Both follow the members one by one: each
written member sets its own field and no other, an unknown one is kept at the end of the others, and
because no name comes twice, as in any value that is read from a text, the unknown members are
written behind the modelled ones as they stand.
-/

namespace Outreach

open Steps

/-! ### Members one at a time -/

namespace Json

variable {σ : Type} {step : σ → String × Json → Except ShapeFault σ}

theorem identifier?_ofIdentifier (id : Option Int64) : (ofIdentifier id).identifier? = id := by
  cases id with
  | none => rfl
  | some n => exact int64?_ofInt64 n

theorem coordinate?_ofCoordinate {x : Option Float} (hfinite : ∀ y ∈ x, y.isFinite = true) :
    (ofCoordinate x).coordinate? = x := by
  cases x with
  | none => rfl
  | some y =>
    show (ofFloat y).coordinate? = some y
    rw [ofFloat, if_pos (hfinite y rfl)]
    rfl

/-- A text that is left out leaves its field as it is, which is empty. -/
theorem foldlM_textMember (step : σ → String × Json → Except ShapeFault σ) (name : String)
    (set : Option String → σ) (hset : ∀ s, step (set none) (name, .text s) = .ok (set (some s)))
    (value : Option String) :
    (textMember name value).foldlM step (set none) = .ok (set value) := by
  cases value with
  | none => rfl
  | some s => exact bind_eq_ok.mpr ⟨_, hset s, rfl⟩

theorem name_of_mem_textMember {name : String} {value : Option String} {member : String × Json}
    (hmem : member ∈ textMember name value) : member.1 = name := by
  obtain ⟨s, -, rfl⟩ := List.mem_map.mp hmem
  rfl

/-- What a reader keeps besides the members it knows is the rest of them, in their order. -/
theorem kept_of_foldlM {known : List String} {kept : σ → List (String × Json)}
    (hstep : ∀ {a b : σ} {member : String × Json}, step a member = .ok b →
      kept b = if member.1 ∈ known then kept a else kept a ++ [member])
    {members : List (String × Json)} {first last : σ}
    (hread : members.foldlM step first = .ok last) :
    kept last = kept first ++ (object members).others known := by
  induction members generalizing first with
  | nil =>
    cases hread
    exact (List.append_nil _).symm
  | cons member rest ih =>
    obtain ⟨next, hnext, hrest⟩ := bind_eq_ok.mp hread
    rw [ih hrest, hstep hnext]
    by_cases hknown : member.1 ∈ known
    · simp [others, hknown]
    · simp [others, hknown]

/-- Unknown members are added to what is kept. -/
theorem foldlM_unknown (step : σ → String × Json → Except ShapeFault σ)
    (set : List (String × Json) → σ) {known : List String}
    (hstep : ∀ kept member, member.1 ∉ known →
      step (set kept) member = .ok (set (kept ++ [member])))
    {more : List (String × Json)} (hmore : ∀ member ∈ more, member.1 ∉ known)
    (kept : List (String × Json)) : more.foldlM step (set kept) = .ok (set (kept ++ more)) := by
  induction more generalizing kept with
  | nil =>
    rw [List.append_nil]
    rfl
  | cons member rest ih =>
    obtain ⟨hmember, hrest⟩ := List.forall_mem_cons.mp hmore
    rw [List.append_cons]
    exact bind_eq_ok.mpr ⟨_, hstep kept member hmember, ih hrest _⟩

end Json

/-! ### Answers -/

theorem FormAnswer.ofJson_toJson (a : FormAnswer) : FormAnswer.ofJson a.toJson = .ok a := by
  show Except.ok (FormAnswer.mk (Json.ofIdentifier a.form).identifier?
    (Json.ofIdentifier a.option).identifier? a.data) = .ok a
  rw [Json.identifier?_ofIdentifier, Json.identifier?_ofIdentifier]

theorem FormAnswer.mapM_ofJson_toJson (answers : List FormAnswer) :
    (answers.map FormAnswer.toJson).mapM FormAnswer.ofJson = .ok answers := by
  rw [mapM_eq_ok, List.forall₂_map_left_iff, List.forall₂_same]
  exact fun a _ => FormAnswer.ofJson_toJson a

/-! ### Addresses -/

namespace Address

def memberNames : List String :=
  ["id", "street", "housenumber", "city", "postalcode", "latitude", "longitude", "PollingStation"]

/-- Each coordinate is a number, if there is one; a number that is not finite cannot be written. -/
structure Placed (a : Address) : Prop where
  latitude : ∀ x ∈ a.latitude, x.isFinite = true
  longitude : ∀ x ∈ a.longitude, x.isFinite = true

/-- The further members are a map, and none of them is modelled. -/
structure Separate (a : Address) : Prop where
  nodup : (Named.names a.extra).Nodup
  unknown : ∀ member ∈ a.extra, member.1 ∉ memberNames

variable {a : Address}

theorem name_of_mem_members {member : String × Json} (hmem : member ∈ a.members) :
    member.1 ∈ memberNames := by
  simp only [members, List.mem_append, List.mem_cons, List.not_mem_nil, or_false] at hmem
  rcases hmem with ((((((hid | htext) | htext) | htext) | htext) | (hplace | hplace)) | htext)
  case inl.inl.inl.inl.inl.inl => simp [hid, memberNames]
  case inl.inr.inl | inl.inr.inr => simp [hplace, memberNames]
  all_goals
    rw [Json.name_of_mem_textMember htext]
    decide

theorem toJson_eq (hseparate : a.Separate) : a.toJson = .object (a.members ++ a.extra) := by
  rw [toJson, Json.extend_eq_append (fun _ => name_of_mem_members) hseparate.nodup
    hseparate.unknown]

theorem readMember_of_notMem (a : Address) {member : String × Json}
    (hunknown : member.1 ∉ memberNames) :
    readMember a member = .ok { a with extra := a.extra ++ [member] } := by
  obtain ⟨name, value⟩ := member
  simp only [memberNames, List.mem_cons, List.not_mem_nil, or_false, not_or] at hunknown
  simp only [readMember]
  split <;> simp_all

theorem extra_of_readMember {next : Address} {member : String × Json}
    (hstep : readMember a member = .ok next) :
    next.extra = if member.1 ∈ memberNames then a.extra else a.extra ++ [member] := by
  by_cases hknown : member.1 ∈ memberNames
  · rw [if_pos hknown]
    obtain ⟨name, value⟩ := member
    simp only [readMember] at hstep
    split at hstep
    case h_1 | h_6 | h_7 =>
      cases hstep
      rfl
    case h_9 => simp_all [memberNames]
    all_goals
      obtain ⟨text, -, rfl⟩ := map_eq_ok.mp hstep
      rfl
  · rw [readMember_of_notMem a hknown] at hstep
    rw [if_neg hknown, ← Except.ok.inj hstep]

theorem foldlM_readMember_members (hplaced : a.Placed) :
    a.members.foldlM readMember {} = .ok { a with extra := [] } := by
  obtain ⟨id, street, houseNumber, city, postalCode, latitude, longitude, station, extra⟩ := a
  have hid : [("id", Json.ofIdentifier id)].foldlM readMember {} = .ok { id } := by
    show Except.ok { id := (Json.ofIdentifier id).identifier? : Address } = _
    rw [Json.identifier?_ofIdentifier]
  have hstreet := Json.foldlM_textMember readMember "street" (fun street => { id, street })
    (fun _ => rfl) street
  have hhouse := Json.foldlM_textMember readMember "housenumber"
    (fun houseNumber => { id, street, houseNumber }) (fun _ => rfl) houseNumber
  have hcity := Json.foldlM_textMember readMember "city"
    (fun city => { id, street, houseNumber, city }) (fun _ => rfl) city
  have hpostal := Json.foldlM_textMember readMember "postalcode"
    (fun postalCode => { id, street, houseNumber, city, postalCode }) (fun _ => rfl) postalCode
  have hplace : [("latitude", Json.ofCoordinate latitude),
      ("longitude", Json.ofCoordinate longitude)].foldlM readMember
        { id, street, houseNumber, city, postalCode } =
      .ok { id, street, houseNumber, city, postalCode, latitude, longitude } := by
    show Except.ok (Address.mk id street houseNumber city postalCode
      (Json.ofCoordinate latitude).coordinate?
      (Json.ofCoordinate longitude).coordinate? none []) = _
    rw [Json.coordinate?_ofCoordinate hplaced.latitude,
      Json.coordinate?_ofCoordinate hplaced.longitude]
  have hstation := Json.foldlM_textMember readMember "PollingStation"
    (fun station => { id, street, houseNumber, city, postalCode, latitude, longitude, station })
    (fun _ => rfl) station
  exact foldlM_append_eq_ok (foldlM_append_eq_ok (foldlM_append_eq_ok (foldlM_append_eq_ok
    (foldlM_append_eq_ok (foldlM_append_eq_ok hid hstreet) hhouse) hcity) hpostal) hplace) hstation

theorem ofJson_toJson (hseparate : a.Separate) (hplaced : a.Placed) : ofJson a.toJson = .ok a := by
  rw [toJson_eq hseparate]
  refine foldlM_append_eq_ok (foldlM_readMember_members hplaced) ?_
  exact Json.foldlM_unknown readMember (fun extra => { a with extra })
    (fun _ _ => readMember_of_notMem _) hseparate.unknown []

theorem extra_of_ofJson {document : Json} (hread : ofJson document = .ok a) :
    a.extra = document.others memberNames := by
  cases document with
  | object members => exact Json.kept_of_foldlM extra_of_readMember hread
  | _ => cases hread

theorem separate_of_ofJson {document : Json} (hformed : document.wellFormed = true)
    (hread : ofJson document = .ok a) : a.Separate := by
  have hextra := extra_of_ofJson hread
  exact ⟨hextra ▸ Json.nodup_others hformed, hextra ▸ fun _ => Json.unknown_of_mem_others⟩

theorem others_toJson (hseparate : a.Separate) : a.toJson.others memberNames = a.extra := by
  rw [toJson_eq hseparate]
  exact Json.others_append (fun _ => name_of_mem_members) hseparate.unknown

end Address

/-! ### Contacts -/

namespace Contact

def memberNames : List String :=
  ["id", "firstname", "surname", "married_name", "gender", "birthdate", "mail", "phone", "address",
    "formdatas"]

/-- The coordinates are numbers, as far as there are any. -/
def Placed (c : Contact) : Prop := ∀ a ∈ c.address, a.Placed

/-- The further members are a map, and none of them is modelled; the same holds of the address. -/
structure Separate (c : Contact) : Prop where
  nodup : (Named.names c.extra).Nodup
  unknown : ∀ member ∈ c.extra, member.1 ∉ memberNames
  address : ∀ a ∈ c.address, a.Separate

variable {c : Contact}

theorem name_of_mem_members {member : String × Json} (hmem : member ∈ c.members) :
    member.1 ∈ memberNames := by
  simp only [members, List.mem_append, List.mem_cons, List.not_mem_nil, or_false] at hmem
  rcases hmem with
    (((((((((hid | htext) | htext) | htext) | htext) | htext) | htext) | htext) | haddress) |
      hanswers)
  case inl.inl.inl.inl.inl.inl.inl.inl.inl => simp [hid, memberNames]
  case inl.inr =>
    obtain ⟨a, -, rfl⟩ := List.mem_map.mp haddress
    simp [memberNames]
  case inr =>
    split at hanswers
    · cases hanswers
    · simp [List.mem_singleton.mp hanswers, memberNames]
  all_goals
    rw [Json.name_of_mem_textMember htext]
    decide

theorem toJson_eq (hseparate : c.Separate) : c.toJson = .object (c.members ++ c.extra) := by
  rw [toJson, Json.extend_eq_append (fun _ => name_of_mem_members) hseparate.nodup
    hseparate.unknown]

theorem readMember_of_notMem (c : Contact) {member : String × Json}
    (hunknown : member.1 ∉ memberNames) :
    readMember c member = .ok { c with extra := c.extra ++ [member] } := by
  obtain ⟨name, value⟩ := member
  simp only [memberNames, List.mem_cons, List.not_mem_nil, or_false, not_or] at hunknown
  simp only [readMember]
  split <;> simp_all

theorem extra_of_readMember {next : Contact} {member : String × Json}
    (hstep : readMember c member = .ok next) :
    next.extra = if member.1 ∈ memberNames then c.extra else c.extra ++ [member] := by
  by_cases hknown : member.1 ∈ memberNames
  · rw [if_pos hknown]
    obtain ⟨name, value⟩ := member
    simp only [readMember] at hstep
    split at hstep
    case h_1 =>
      cases hstep
      rfl
    case h_11 => simp_all [memberNames]
    all_goals
      obtain ⟨read, -, rfl⟩ := map_eq_ok.mp hstep
      rfl
  · rw [readMember_of_notMem c hknown] at hstep
    rw [if_neg hknown, ← Except.ok.inj hstep]

theorem address_of_readMember {next : Contact} {member : String × Json}
    (hstep : readMember c member = .ok next) :
    if member.1 = "address" then readAddress member.2 = .ok next.address
    else next.address = c.address := by
  obtain ⟨name, value⟩ := member
  simp only [readMember] at hstep
  split at hstep
  case h_1 =>
    cases hstep
    rfl
  case h_9 =>
    obtain ⟨read, hread, rfl⟩ := map_eq_ok.mp hstep
    exact hread
  case h_11 =>
    cases hstep
    simp_all
  all_goals
    obtain ⟨read, -, rfl⟩ := map_eq_ok.mp hstep
    simp

theorem foldlM_readMember_members (haddress : ∀ a ∈ c.address, Address.ofJson a.toJson = .ok a) :
    c.members.foldlM readMember {} = .ok { c with extra := [] } := by
  obtain ⟨id, firstname, surname, marriedName, gender, birthdate, mail, phone, address, answers,
    extra⟩ := c
  have hid : [("id", Json.ofIdentifier id)].foldlM readMember {} = .ok { id } := by
    show Except.ok { id := (Json.ofIdentifier id).identifier? : Contact } = _
    rw [Json.identifier?_ofIdentifier]
  have hfirstname := Json.foldlM_textMember readMember "firstname"
    (fun firstname => { id, firstname }) (fun _ => rfl) firstname
  have hsurname := Json.foldlM_textMember readMember "surname"
    (fun surname => { id, firstname, surname }) (fun _ => rfl) surname
  have hmarried := Json.foldlM_textMember readMember "married_name"
    (fun marriedName => { id, firstname, surname, marriedName }) (fun _ => rfl) marriedName
  have hgender := Json.foldlM_textMember readMember "gender"
    (fun gender => { id, firstname, surname, marriedName, gender }) (fun _ => rfl) gender
  have hbirth := Json.foldlM_textMember readMember "birthdate"
    (fun birthdate => { id, firstname, surname, marriedName, gender, birthdate })
    (fun _ => rfl) birthdate
  have hmail := Json.foldlM_textMember readMember "mail"
    (fun mail => { id, firstname, surname, marriedName, gender, birthdate, mail })
    (fun _ => rfl) mail
  have hphone := Json.foldlM_textMember readMember "phone"
    (fun phone => { id, firstname, surname, marriedName, gender, birthdate, mail, phone })
    (fun _ => rfl) phone
  have hplace : (address.toList.map fun a => ("address", a.toJson)).foldlM readMember
        { id, firstname, surname, marriedName, gender, birthdate, mail, phone } =
      .ok { id, firstname, surname, marriedName, gender, birthdate, mail, phone, address } := by
    cases address with
    | none => rfl
    | some a =>
      refine bind_eq_ok.mpr ⟨_, map_eq_ok.mpr ⟨some a, ?_, rfl⟩, rfl⟩
      exact map_eq_ok.mpr ⟨a, haddress a rfl, rfl⟩
  have hanswers : (if answers.isEmpty then []
        else [("formdatas", Json.list (answers.map FormAnswer.toJson))]).foldlM readMember
        { id, firstname, surname, marriedName, gender, birthdate, mail, phone, address } =
      .ok { id, firstname, surname, marriedName, gender, birthdate, mail, phone, address,
            answers } := by
    cases answers with
    | nil => rfl
    | cons answer rest =>
      refine bind_eq_ok.mpr ⟨_, map_eq_ok.mpr ⟨answer :: rest, ?_, rfl⟩, rfl⟩
      exact FormAnswer.mapM_ofJson_toJson (answer :: rest)
  exact foldlM_append_eq_ok (foldlM_append_eq_ok (foldlM_append_eq_ok (foldlM_append_eq_ok
    (foldlM_append_eq_ok (foldlM_append_eq_ok (foldlM_append_eq_ok (foldlM_append_eq_ok
      (foldlM_append_eq_ok hid hfirstname) hsurname) hmarried) hgender) hbirth) hmail) hphone)
        hplace) hanswers

theorem ofJson_toJson (hseparate : c.Separate) (hplaced : c.Placed) : ofJson c.toJson = .ok c := by
  have haddress : ∀ a ∈ c.address, Address.ofJson a.toJson = .ok a := fun a ha =>
    Address.ofJson_toJson (hseparate.address a ha) (hplaced a ha)
  rw [toJson_eq hseparate]
  refine foldlM_append_eq_ok (foldlM_readMember_members haddress) ?_
  exact Json.foldlM_unknown readMember (fun extra => { c with extra })
    (fun _ _ => readMember_of_notMem _) hseparate.unknown []

theorem others_toJson (hseparate : c.Separate) : c.toJson.others memberNames = c.extra := by
  rw [toJson_eq hseparate]
  exact Json.others_append (fun _ => name_of_mem_members) hseparate.unknown

theorem get?_toJson_address (hseparate : c.Separate) :
    c.toJson.get? "address" = c.address.map Address.toJson := by
  have htext : ∀ {name : String} (value : Option String), name ≠ "address" →
      Named.get? "address" (Json.textMember name value) = none := by
    intro name value hname
    cases value with
    | none => rfl
    | some s => exact if_neg hname
  have hanswers : Named.get? "address" (if c.answers.isEmpty then []
      else [("formdatas", Json.list (c.answers.map FormAnswer.toJson))]) = none := by
    split <;> rfl
  have hextra : Named.get? "address" c.extra = none := by
    rw [Named.get?_eq_none_iff]
    intro hmem
    obtain ⟨member, hmember, heq⟩ := List.mem_map.mp hmem
    exact hseparate.unknown member hmember (by simp [heq, memberNames])
  rw [toJson_eq hseparate]
  show Named.get? "address" (c.members ++ c.extra) = _
  simp only [members, Named.get?_append, htext, hanswers, hextra, ne_eq, String.reduceEq,
    not_false_eq_true, Option.or_none]
  cases c.address <;> rfl

theorem extra_of_ofJson {document : Json} (hread : ofJson document = .ok c) :
    c.extra = document.others memberNames := by
  cases document with
  | object members => exact Json.kept_of_foldlM extra_of_readMember hread
  | _ => cases hread

/-- The address is read from the one member of its name, if there is one. -/
theorem address_of_foldlM {members : List (String × Json)} {first : Contact}
    (hnodup : (Named.names members).Nodup) (hread : members.foldlM readMember first = .ok c) :
    match Named.get? "address" members with
    | some value => readAddress value = .ok c.address
    | none => c.address = first.address := by
  induction members generalizing first with
  | nil =>
    cases hread
    rfl
  | cons member rest ih =>
    obtain ⟨name, value⟩ := member
    obtain ⟨hname, hnodup⟩ := List.nodup_cons.mp hnodup
    obtain ⟨next, hnext, hrest⟩ := bind_eq_ok.mp hread
    have hlater := ih hnodup hrest
    have hstep := address_of_readMember hnext
    rw [Named.get?]
    by_cases haddress : name = "address"
    · have hnone : Named.get? "address" rest = none :=
        (Named.get?_eq_none_iff _ rest).mpr (haddress ▸ hname)
      rw [hnone] at hlater
      rw [if_pos haddress] at hstep ⊢
      rw [hlater]
      exact hstep
    · rw [if_neg haddress] at hstep ⊢
      rw [hstep] at hlater
      exact hlater

theorem readAddress_of_ofJson {document value : Json} (hformed : document.wellFormed = true)
    (hread : ofJson document = .ok c) (hvalue : document.get? "address" = some value) :
    readAddress value = .ok c.address := by
  obtain ⟨members, rfl, hmember⟩ := Json.get?_eq_some_iff.mp hvalue
  have haddress := address_of_foldlM (Json.wellFormed_object.mp hformed).1 hread
  rw [hmember] at haddress
  exact haddress

theorem separate_of_ofJson {document : Json} (hformed : document.wellFormed = true)
    (hread : ofJson document = .ok c) : c.Separate := by
  have hextra := extra_of_ofJson hread
  refine ⟨hextra ▸ Json.nodup_others hformed, hextra ▸ fun _ => Json.unknown_of_mem_others, ?_⟩
  intro a ha
  cases hvalue : document.get? "address" with
  | none =>
    cases document with
    | object members =>
      have haddress := address_of_foldlM (Json.wellFormed_object.mp hformed).1 hread
      rw [show Named.get? "address" members = none from hvalue] at haddress
      cases haddress.symm.trans ha
    | _ => cases hread
  | some value =>
    have haddress := readAddress_of_ofJson hformed hread hvalue
    rw [show c.address = some a from ha] at haddress
    have hvalueFormed := Json.wellFormed_of_get? hformed hvalue
    cases value with
    | null => cases haddress
    | _ =>
      obtain ⟨b, hb, heq⟩ := map_eq_ok.mp haddress
      cases heq
      exact Address.separate_of_ofJson hvalueFormed hb

/-- What is written of a contact reads as the contact, and has the members of a document that are
not modelled, and those of its address. -/
structure Keeps (c : Contact) (document : Json) : Prop where
  again : ofJson c.toJson = .ok c
  others : c.toJson.others memberNames = document.others memberNames
  address : ∀ members, document.get? "address" = some (.object members) →
    ∃ written, c.toJson.get? "address" = some written ∧
      written.others Address.memberNames = (Json.object members).others Address.memberNames

theorem keeps_of_ofJson {document : Json} (hformed : document.wellFormed = true)
    (hread : ofJson document = .ok c) (hplaced : c.Placed) : c.Keeps document := by
  have hseparate := separate_of_ofJson hformed hread
  refine ⟨ofJson_toJson hseparate hplaced, ?_, ?_⟩
  · rw [others_toJson hseparate, extra_of_ofJson hread]
  · intro members haddress
    have hvalue := readAddress_of_ofJson hformed hread haddress
    obtain ⟨a, ha, hsome⟩ := map_eq_ok.mp hvalue
    have hsome : c.address = some a := hsome.symm
    refine ⟨a.toJson, ?_, ?_⟩
    · rw [get?_toJson_address hseparate, hsome, Option.map_some]
    · rw [Address.others_toJson (hseparate.address a hsome), Address.extra_of_ofJson ha]

/-- A document that was read from a text is well formed, so its contact keeps it. -/
theorem keeps_of_read? {s : String} {document : Json} (htext : Json.read? s = some document)
    (hread : ofJson document = .ok c) (hplaced : c.Placed) : c.Keeps document :=
  keeps_of_ofJson (Json.wellFormed_of_read? htext) hread hplaced

/-- Nothing of a contact is lost between reading and writing. A document that reads as a contact is
written so that it reads as the same contact, with all its members that are not modelled, and those
of its address, as they were and in their order. A contact that was not read at all but could have
been is read back from what is written of it. -/
theorem nothing_lost :
    (∀ (document : Json) (c : Contact), document.wellFormed = true → ofJson document = .ok c →
      c.Placed →
        ofJson c.toJson = .ok c ∧
          c.toJson.others memberNames = document.others memberNames ∧
          ∀ members, document.get? "address" = some (.object members) →
            ∃ written, c.toJson.get? "address" = some written ∧
              written.others Address.memberNames =
                (Json.object members).others Address.memberNames) ∧
      ∀ c : Contact, c.Separate → c.Placed → ofJson c.toJson = .ok c := by
  refine ⟨?_, fun c => ofJson_toJson⟩
  intro document c hformed hread hplaced
  have hkeeps := keeps_of_ofJson hformed hread hplaced
  exact ⟨hkeeps.again, hkeeps.others, hkeeps.address⟩

/-- A document with an identifier and a coordinate as texts, an answer as a list, and members that
are not modelled before, between and after the others; and a contact that no document was read
for. -/
theorem nothing_lost_lenient :
    let document : Json := .object [("tags", .list [.text "a"]), ("id", .text " 17 "),
      ("address", .object [("zone", .integer 3), ("latitude", .text "43.5"),
        ("longitude", .integer 1), ("id", .float 2)]),
      ("formdatas", .list [.list [.integer 3, .text "4"]]), ("since", .null)]
    let made : Contact :=
      { surname := some "dupont"
        address := some { latitude := some 43.5, extra := [("zone", .integer 3)] }
        extra := [("tags", .list [])] }
    (∃ c, ofJson document = .ok c ∧ c.id = some 17 ∧ ofJson c.toJson = .ok c ∧
      c.toJson.others memberNames = [("tags", .list [.text "a"]), ("since", .null)] ∧
        ∃ written, c.toJson.get? "address" = some written ∧
          written.others Address.memberNames = [("zone", .integer 3)]) ∧
      ofJson made.toJson = .ok made := by
  intro document made
  have hformed : document.wellFormed = true := by decide
  obtain ⟨c, hread, hid, hplaced⟩ : ∃ c, ofJson document = .ok c ∧ c.id = some 17 ∧ c.Placed := by
    refine ⟨_, rfl, by decide +kernel, ?_⟩
    rintro a ⟨⟩
    constructor
    · rintro x ⟨⟩
      decide +kernel
    · rintro x ⟨⟩
      decide +kernel
  have hseparate : made.Separate := by
    refine ⟨by decide, by simp [made, memberNames], ?_⟩
    rintro a ⟨⟩
    exact ⟨by decide, by simp [Address.memberNames]⟩
  have hmade : made.Placed := by
    rintro a ⟨⟩
    constructor
    · rintro x ⟨⟩
      decide +kernel
    · rintro x ⟨⟩
  obtain ⟨hagain, hothers, haddress⟩ := nothing_lost.1 document c hformed hread hplaced
  exact ⟨⟨c, hread, hid, hagain, hothers, haddress _ rfl⟩, nothing_lost.2 made hseparate hmade⟩

end Contact

end Outreach
