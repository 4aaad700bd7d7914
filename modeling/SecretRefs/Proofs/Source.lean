import SecretRefs.Source
import SecretRefs.Proofs.Dict

/-! Mappings from documents. Of the members of one name the last stays. The values that stay decide everything: if all of
them are scalars they are taken, each as the text that it says, and if not, the first name in order that has another
value is the error. Neither the order of the members nor what has been replaced plays a part. -/

namespace SecretRefs

variable {α : Type}

/-! ### Members that stay -/

/-- A name has this value, and no later member replaces it. -/
def Stays (members : List (String × α)) (name : String) (value : α) : Prop :=
  ∃ before after, members = before ++ (name, value) :: after ∧ name ∉ after.map Prod.fst

theorem stays_iff {members : List (String × α)} {name : String} {value : α} :
    Stays members name value ↔ (Dict.ofList members).get? name = some value := by
  rw [Dict.get?_ofList, List.lookup_eq_some_iff]
  constructor
  · rintro ⟨before, after, rfl, hafter⟩
    refine ⟨after.reverse, before.reverse, by simp, fun m hm => ?_⟩
    rw [bne_iff_ne]
    rintro rfl
    exact hafter (List.mem_map_of_mem (List.mem_reverse.1 hm))
  · rintro ⟨before, after, heq, hbefore⟩
    refine ⟨after.reverse, before.reverse, by rw [← List.reverse_inj, heq]; simp, fun hmem => ?_⟩
    obtain ⟨m, hm, rfl⟩ := List.mem_map.1 hmem
    simpa using hbefore m (List.mem_reverse.1 hm)

theorem lookup_filter_fst (l : List (String × α)) (name : String) :
    (l.filter fun m => m.1 = name).lookup name = l.lookup name := by
  induction l with
  | nil => rfl
  | cons m rest ih =>
      obtain ⟨other, value⟩ := m
      by_cases hname : other = name
      · rw [List.filter_cons_of_pos (by simpa using hname), hname, List.lookup_cons_self, List.lookup_cons_self]
      · rw [List.filter_cons_of_neg (by simpa using hname), ih, Dict.lookup_cons_of_ne (Ne.symm hname)]

/-- Only members of one name have to keep their order. -/
theorem ofList_congr_of_filter {members others : List (String × α)}
    (h : ∀ name, (members.filter fun m => m.1 = name) = others.filter fun m => m.1 = name) :
    Dict.ofList members = Dict.ofList others := by
  apply Dict.ext_get?
  intro name
  rw [Dict.get?_ofList, Dict.get?_ofList, ← lookup_filter_fst, ← lookup_filter_fst others.reverse, List.filter_reverse,
    List.filter_reverse, h name]

/-- A member that a later one replaces might as well not be there. -/
theorem ofList_replaced {before after : List (String × α)} {name : String} (value : α)
    (hname : name ∈ after.map Prod.fst) :
    Dict.ofList (before ++ (name, value) :: after) = Dict.ofList (before ++ after) := by
  apply Dict.ext_get?
  intro key
  rw [Dict.get?_ofList, Dict.get?_ofList, List.reverse_append, List.reverse_cons, List.reverse_append,
    List.lookup_append, List.lookup_append, List.lookup_append]
  by_cases hkey : key = name
  · subst hkey
    rw [← List.mem_reverse, ← List.map_reverse, ← Dict.exists_lookup_eq_some_iff] at hname
    obtain ⟨last, hlast⟩ := hname
    rw [hlast, Option.some_or, Option.some_or]
  · rw [Dict.lookup_cons_of_ne hkey, List.lookup_nil, Option.or_none]

theorem lookup_map_snd {β : Type} (f : α → β) (l : List (String × α)) (name : String) :
    (l.map fun m => (m.1, f m.2)).lookup name = (l.lookup name).map f := by
  induction l with
  | nil => rfl
  | cons m rest ih =>
      obtain ⟨other, value⟩ := m
      rw [List.map_cons]
      by_cases hname : name = other
      · rw [hname, List.lookup_cons_self, List.lookup_cons_self, Option.map_some]
      · rw [Dict.lookup_cons_of_ne hname, Dict.lookup_cons_of_ne hname, ih]

theorem ofList_map_snd {β : Type} (f : α → β) (members : List (String × α)) :
    Dict.ofList (members.map fun m => (m.1, f m.2)) = (Dict.ofList members).mapValues fun _ => f := by
  apply Dict.ext_get?
  intro name
  rw [Dict.get?_mapValues, Dict.get?_ofList, Dict.get?_ofList, ← List.map_reverse, lookup_map_snd]

/-! ### Values -/

/-- A value of a document. -/
inductive Decoded
  | json (value : Json.Value)
  | yaml (value : Yaml.Value)

namespace Decoded

/-- The value is a scalar, and this is its text. -/
inductive Says : Decoded → String → Prop
  | jsonNull : Says (json .null) ""
  | jsonTrue : Says (json (.bool true)) "true"
  | jsonFalse : Says (json (.bool false)) "false"
  | jsonInteger (n : Int) : Says (json (.number (.integer n))) (toString n)
  | jsonFloat (x : Float) : Says (json (.number (.float x))) (Json.decimals.render x)
  | jsonString (text : String) : Says (json (.string text)) text
  | yamlNull : Says (yaml .null) ""
  | yamlTrue : Says (yaml (.bool true)) "true"
  | yamlFalse : Says (yaml (.bool false)) "false"
  | yamlInteger (n : Int) : Says (yaml (.number (.integer n))) (toString n)
  | yamlFloat (x : Float) : Says (yaml (.number (.float x))) (Yaml.decimals.render x)
  | yamlString (text : String) : Says (yaml (.string text)) text

/-- The value is no scalar. A local tag makes a value none. -/
inductive IsCollection : Decoded → Prop
  | array (items : List Json.Value) : IsCollection (json (.array items))
  | object (members : List (String × Json.Value)) : IsCollection (json (.object members))
  | sequence (items : List Yaml.Value) : IsCollection (yaml (.sequence items))
  | mapping (entries : List (Yaml.Value × Yaml.Value)) : IsCollection (yaml (.mapping entries))
  | tagged (tag : String) (value : Yaml.Value) : IsCollection (yaml (.tagged tag value))

/-- The text that is taken for a value. -/
def text? : Decoded → Option String
  | json value => value.scalarText?
  | yaml value => value.scalarText?

theorem text?_eq_some_iff {v : Decoded} {text : String} : v.text? = some text ↔ v.Says text := by
  constructor
  · intro h
    rcases v with (_ | b | n | s | _ | _) | (_ | b | n | s | _ | _ | _) <;> cases h
    · exact .jsonNull
    · cases b
      · exact .jsonFalse
      · exact .jsonTrue
    · cases n
      · exact .jsonInteger _
      · exact .jsonFloat _
    · exact .jsonString _
    · exact .yamlNull
    · cases b
      · exact .yamlFalse
      · exact .yamlTrue
    · cases n
      · exact .yamlInteger _
      · exact .yamlFloat _
    · exact .yamlString _
  · intro h
    cases h <;> rfl

theorem text?_eq_none_iff {v : Decoded} : v.text? = none ↔ v.IsCollection := by
  constructor
  · intro h
    rcases v with (_ | _ | _ | _ | _ | _) | (_ | _ | _ | _ | _ | _ | _) <;> cases h
    · exact .array _
    · exact .object _
    · exact .sequence _
    · exact .mapping _
    · exact .tagged _ _
  · intro h
    cases h <;> rfl

/-- A value is a scalar with one text, or none at all. -/
theorem exists_says_iff {v : Decoded} : (∃ text, v.Says text) ↔ ¬ v.IsCollection := by
  rw [← text?_eq_none_iff, ← ne_eq, Option.ne_none_iff_exists']
  simp only [text?_eq_some_iff]

end Decoded

/-! ### Texts -/

/-- The texts of the values that stay, as far as they are scalars. -/
def textsOf (members : List (String × Decoded)) : Dict String (Option String) :=
  (Dict.ofList members).mapValues fun _ => Decoded.text?

theorem exists_stays_iff {members : List (String × α)} {name : String} :
    (∃ value, Stays members name value) ↔ name ∈ members.map Prod.fst := by
  simp only [stays_iff, ← Dict.mem_keys_iff, Dict.mem_keys_ofList]

theorem get?_textsOf_eq_some_iff {members : List (String × Decoded)} {name : String} {scalar : Option String} :
    (textsOf members).get? name = some scalar ↔ ∃ v, Stays members name v ∧ v.text? = scalar := by
  simp only [textsOf, Dict.get?_mapValues, Option.map_eq_some_iff, stays_iff]

/-- A name has no scalar if it is there and says nothing. -/
theorem exists_isCollection_iff {members : List (String × Decoded)} {name : String} :
    (∃ v, Stays members name v ∧ v.IsCollection) ↔
      name ∈ members.map Prod.fst ∧ ¬ ∃ text v, Stays members name v ∧ v.Says text := by
  rw [← exists_stays_iff]
  constructor
  · rintro ⟨v, hv, hcollection⟩
    refine ⟨⟨v, hv⟩, ?_⟩
    rintro ⟨text, w, hw, htold⟩
    rw [stays_iff] at hv hw
    obtain rfl := Option.some.inj (hv.symm.trans hw)
    exact Decoded.exists_says_iff.1 ⟨text, htold⟩ hcollection
  · rintro ⟨⟨v, hv⟩, hnone⟩
    refine ⟨v, hv, ?_⟩
    by_contra hscalar
    obtain ⟨text, htold⟩ := Decoded.exists_says_iff.2 hscalar
    exact hnone ⟨text, v, hv, htold⟩

/-- The texts are told by the names and by what their values say. -/
theorem textsOf_congr {members others : List (String × Decoded)}
    (hnames : ∀ name, name ∈ members.map Prod.fst ↔ name ∈ others.map Prod.fst)
    (htold : ∀ name text, (∃ v, Stays members name v ∧ v.Says text) ↔ ∃ v, Stays others name v ∧ v.Says text) :
    textsOf members = textsOf others := by
  apply Dict.ext_get?
  intro name
  ext scalar
  rw [get?_textsOf_eq_some_iff, get?_textsOf_eq_some_iff]
  cases scalar with
  | none => simp only [Decoded.text?_eq_none_iff, exists_isCollection_iff, hnames, htold]
  | some text => simp only [Decoded.text?_eq_some_iff, htold]

/-- The first name in order whose value is no scalar. -/
def firstCollection? (texts : Dict String (Option String)) : Option String :=
  (texts.entries.find? fun e => e.2.isNone).map Prod.fst

/-- The texts of the scalars. -/
def scalarTexts (texts : Dict String (Option String)) : Dict String String := texts.mapValues fun _ scalar => scalar.getD ""

/-- What is made of the texts: all of them, or the error about the first that is missing. -/
def wholeOf (texts : Dict String (Option String)) : Except Error (Dict String String) :=
  (firstCollection? texts).elim (.ok (scalarTexts texts)) fun name => .error (.collectionValue name)

/-- The entry of a name whose value is a scalar. -/
def entryOf (entry : String × Option String) : Except Error (String × String) :=
  entry.2.elim (.error (.collectionValue entry.1)) fun text => .ok (entry.1, text)

/-- Entries are made one after the other, up to the first value that is no scalar. -/
theorem mapM_entryOf (entries : List (String × Option String)) :
    entries.mapM entryOf =
      (entries.find? fun e => e.2.isNone).elim (.ok (entries.map fun e => (e.1, e.2.getD "")))
        fun e => .error (.collectionValue e.1) := by
  induction entries with
  | nil => rfl
  | cons e rest ih =>
      obtain ⟨name, _ | text⟩ := e
      · rfl
      · rw [List.mapM_cons, ih, List.find?_cons_of_neg (by simp)]
        cases rest.find? fun e => e.2.isNone <;> rfl

theorem entries_textsOf (decode : α → Decoded) (members : List (String × α)) :
    (textsOf (members.map fun m => (m.1, decode m.2))).entries =
      (Dict.ofList members).entries.map fun m => (m.1, (decode m.2).text?) := by
  rw [textsOf, ofList_map_snd]
  exact List.map_map

/-- Values may be seen as decoded ones before their texts are taken. -/
theorem mappingOf_eq_mapM (decode : α → Decoded) (members : List (String × α)) :
    mappingOf (fun value => (decode value).text?) members =
      ((textsOf (members.map fun m => (m.1, decode m.2))).entries.mapM entryOf).map Dict.ofList := by
  rw [entries_textsOf, List.mapM_map, mappingOf]
  congr 2
  funext m
  obtain ⟨name, value⟩ := m
  rw [Function.comp_apply, entryOf]
  dsimp only
  cases (decode value).text? <;> rfl

theorem mappingOf_eq (decode : α → Decoded) (members : List (String × α)) :
    mappingOf (fun value => (decode value).text?) members = wholeOf (textsOf (members.map fun m => (m.1, decode m.2))) := by
  rw [mappingOf_eq_mapM, mapM_entryOf, wholeOf, firstCollection?]
  cases (textsOf (members.map fun m => (m.1, decode m.2))).entries.find? fun e => e.2.isNone with
  | none => exact congrArg Except.ok (Dict.ofList_of_perm (List.Perm.refl _))
  | some e => rfl

section Scalars

variable {texts : Dict String (Option String)}

theorem firstCollection?_eq_none_iff : firstCollection? texts = none ↔ ∀ name, texts.get? name ≠ some none := by
  simp only [firstCollection?, Option.map_eq_none_iff, List.find?_eq_none, ne_eq, Dict.get?_eq_some_iff]
  constructor
  · intro h name hmem
    exact h _ hmem rfl
  · rintro h ⟨name, _ | text⟩ hmem
    · exact absurd hmem (h name)
    · simp

/-- First in order is the name before all others of the kind. -/
theorem firstCollection?_eq_some_iff {name : String} :
    firstCollection? texts = some name ↔
      texts.get? name = some none ∧ ∀ other, texts.get? other = some none → other ≠ name → compare name other = .lt := by
  simp only [firstCollection?, Option.map_eq_some_iff, find?_eq_some_iff_of_increasing Prod.fst (Dict.increasing _),
    Dict.get?_eq_some_iff]
  constructor
  · rintro ⟨⟨found, _ | text⟩, ⟨hmem, hnone, hleast⟩, rfl⟩
    · refine ⟨hmem, fun other hother hne => hleast (other, none) hother rfl ?_⟩
      exact fun heq => hne (congrArg Prod.fst heq)
    · cases hnone
  · rintro ⟨hmem, hleast⟩
    refine ⟨(name, none), ⟨hmem, rfl, ?_⟩, rfl⟩
    rintro ⟨other, _ | text⟩ hother hnone hne
    · exact hleast other hother fun heq => hne (by rw [heq])
    · cases hnone

/-- Where all values are scalars, none of them is left out. -/
theorem get?_scalarTexts (h : firstCollection? texts = none) {name text : String} :
    (scalarTexts texts).get? name = some text ↔ texts.get? name = some (some text) := by
  rw [scalarTexts, Dict.get?_mapValues, Option.map_eq_some_iff]
  constructor
  · rintro ⟨_ | scalar, hscalar, rfl⟩
    · exact absurd hscalar (firstCollection?_eq_none_iff.1 h name)
    · exact hscalar
  · intro htext
    exact ⟨some text, htext, rfl⟩

theorem wholeOf_eq_ok_iff {whole : Dict String String} :
    wholeOf texts = .ok whole ↔ firstCollection? texts = none ∧ scalarTexts texts = whole := by
  rw [wholeOf]
  cases firstCollection? texts <;> simp

theorem wholeOf_eq_error_iff {error : Error} :
    wholeOf texts = .error error ↔ ∃ name, .collectionValue name = error ∧ firstCollection? texts = some name := by
  rw [wholeOf]
  cases firstCollection? texts <;> simp

end Scalars

/-! ### Texts of members -/

theorem mem_keys_textsOf_iff {members : List (String × Decoded)} {name : String} :
    name ∈ (textsOf members).keys ↔ name ∈ members.map Prod.fst := by
  rw [textsOf, Dict.keys_mapValues, Dict.mem_keys_ofList]

theorem firstCollection?_textsOf_eq_none_iff {members : List (String × Decoded)} :
    firstCollection? (textsOf members) = none ↔ ∀ name v, Stays members name v → ¬ v.IsCollection := by
  simp only [firstCollection?_eq_none_iff, ne_eq, get?_textsOf_eq_some_iff, Decoded.text?_eq_none_iff, not_exists, not_and]

theorem firstCollection?_textsOf_eq_some_iff {members : List (String × Decoded)} {name : String} :
    firstCollection? (textsOf members) = some name ↔
      (∃ v, Stays members name v ∧ v.IsCollection) ∧
        ∀ other w, Stays members other w → w.IsCollection → other ≠ name → compare name other = .lt := by
  simp only [firstCollection?_eq_some_iff, get?_textsOf_eq_some_iff, Decoded.text?_eq_none_iff, forall_exists_index, and_imp]

/-! ### Documents -/

/-- The members of a document. A blank text is a document without members where it is one at all. -/
def decoded? (format : FileFormat) (content : String) : Option (List (String × Decoded)) :=
  match format with
  | .json => (Json.readObject content).toOption.map fun members => members.map fun m => (m.1, .json m.2)
  | .yaml =>
    if content.toList.all Text.isBlank then some []
    else (Yaml.readMapping content).toOption.map fun members => members.map fun m => (m.1, .yaml m.2)
  | .properties => none

theorem exists_of_map_toOption {ε β γ : Type} {read : Except ε β} {f : β → γ} {c : γ}
    (h : read.toOption.map f = some c) : ∃ b, read = .ok b ∧ f b = c := by
  cases read with
  | error fault => cases h
  | ok b => exact ⟨b, rfl, Option.some.inj h⟩

theorem value_parseContent {format : FileFormat} {content : String} {members : List (String × Decoded)}
    (h : decoded? format content = some members) : (parseContent format content).value = wholeOf (textsOf members) := by
  cases format with
  | json =>
      obtain ⟨values, hread, rfl⟩ := exists_of_map_toOption h
      change jsonMapping content = _
      rw [jsonMapping, hread]
      exact mappingOf_eq .json values
  | yaml =>
      change yamlMapping content = _
      rw [decoded?] at h
      rw [yamlMapping, Text.isBlankText]
      split at h
      · next hblank =>
        cases h
        rw [if_pos hblank]
        rfl
      · next hblank =>
        obtain ⟨values, hread, rfl⟩ := exists_of_map_toOption h
        rw [if_neg hblank, hread]
        exact mappingOf_eq .yaml values
  | properties => cases h

/-- What becomes of a document with these members. -/
structure TakenWhole (format : FileFormat) (content : String) (members : List (String × Decoded)) : Prop where
  /-- One value that is no scalar is enough for there to be no mapping, unless it is replaced. -/
  succeeds : (∃ texts, (parseContent format content).value = .ok texts) ↔
    ∀ name v, Stays members name v → ¬ v.IsCollection
  names (texts : Dict String String) : (parseContent format content).value = .ok texts →
    ∀ name, name ∈ texts.keys ↔ name ∈ members.map Prod.fst
  /-- Each name has the text that its own value says. -/
  texts (texts : Dict String String) : (parseContent format content).value = .ok texts →
    ∀ name text, texts.get? name = some text ↔ ∃ v, Stays members name v ∧ v.Says text
  /-- The error is about the first name in order that has no scalar. -/
  fails (error : Error) : (parseContent format content).value = .error error ↔
    ∃ name, .invalidConfig s!"value of '{name}' must be a scalar" = error ∧
      (∃ v, Stays members name v ∧ v.IsCollection) ∧
      ∀ other w, Stays members other w → w.IsCollection → other ≠ name → compare name other = .lt
  /-- Every value is a scalar or none. -/
  divided (v : Decoded) : (∃ text, v.Says text) ↔ ¬ v.IsCollection
  /-- A document with the same members gives the same, as long as those of one name keep their order. -/
  reordered (other : FileFormat) (document : String) (others : List (String × Decoded)) :
    decoded? other document = some others →
    (∀ name, (members.filter fun m => m.1 = name) = others.filter fun m => m.1 = name) →
    (parseContent other document).value = (parseContent format content).value
  /-- So does one without a member that a later one replaces. -/
  replaced (other : FileFormat) (document name : String) (before after : List (String × Decoded)) (v : Decoded) :
    members = before ++ (name, v) :: after → name ∈ after.map Prod.fst →
    decoded? other document = some (before ++ after) →
    (parseContent other document).value = (parseContent format content).value
  /-- Nothing counts but the names and what their values say, in either format. -/
  told (other : FileFormat) (document : String) (others : List (String × Decoded)) :
    decoded? other document = some others →
    (∀ name, name ∈ others.map Prod.fst ↔ name ∈ members.map Prod.fst) →
    (∀ name text, (∃ v, Stays others name v ∧ v.Says text) ↔ ∃ v, Stays members name v ∧ v.Says text) →
    (parseContent other document).value = (parseContent format content).value

/-- **A document is taken as a whole or not at all.** -/
theorem takenWhole {format : FileFormat} {content : String} {members : List (String × Decoded)}
    (h : decoded? format content = some members) : TakenWhole format content members where
  succeeds := by
    simp only [value_parseContent h, wholeOf_eq_ok_iff, exists_and_left, exists_eq', and_true]
    exact firstCollection?_textsOf_eq_none_iff
  names texts htexts name := by
    rw [value_parseContent h, wholeOf_eq_ok_iff] at htexts
    obtain ⟨-, rfl⟩ := htexts
    rw [scalarTexts, Dict.keys_mapValues, mem_keys_textsOf_iff]
  texts texts htexts name text := by
    rw [value_parseContent h, wholeOf_eq_ok_iff] at htexts
    obtain ⟨hnone, rfl⟩ := htexts
    simp only [get?_scalarTexts hnone, get?_textsOf_eq_some_iff, Decoded.text?_eq_some_iff]
  fails error := by
    simp only [value_parseContent h, wholeOf_eq_error_iff, firstCollection?_textsOf_eq_some_iff]
    rfl
  divided v := Decoded.exists_says_iff
  reordered other document others hothers hfilter := by
    rw [value_parseContent h, value_parseContent hothers, textsOf, textsOf, ofList_congr_of_filter hfilter]
  replaced other document name before after v hmembers hname hdocument := by
    rw [value_parseContent h, value_parseContent hdocument, textsOf, textsOf, hmembers, ofList_replaced v hname]
  told other document others hothers hnames htold := by
    rw [value_parseContent h, value_parseContent hothers, textsOf_congr hnames htold]

/-- The list under `b` is replaced; of the two names that have no scalar the first in order is the second in the text. -/
theorem takenWhole_replaced :
    decoded? .json "\x7b\"b\": [1], \"d\": [], \"b\": null, \"c\": \x7b\x7d\x7d" =
        some [("b", .json (.array [.number (.integer 1)])), ("d", .json (.array [])), ("b", .json .null),
          ("c", .json (.object []))] ∧
      TakenWhole .json "\x7b\"b\": [1], \"d\": [], \"b\": null, \"c\": \x7b\x7d\x7d"
        [("b", .json (.array [.number (.integer 1)])), ("d", .json (.array [])), ("b", .json .null),
          ("c", .json (.object []))] ∧
      (parseContent .json "\x7b\"b\": [1], \"d\": [], \"b\": null, \"c\": \x7b\x7d\x7d").value =
        .error (.invalidConfig "value of 'c' must be a scalar") := by
  have hdecoded : decoded? .json "\x7b\"b\": [1], \"d\": [], \"b\": null, \"c\": \x7b\x7d\x7d" =
      some [("b", .json (.array [.number (.integer 1)])), ("d", .json (.array [])), ("b", .json .null),
        ("c", .json (.object []))] := rfl
  refine ⟨hdecoded, takenWhole hdecoded, ?_⟩
  rw [value_parseContent hdecoded]
  rfl

end SecretRefs
