import RemoteTable.Proofs.Json.Merging
import RemoteTable.Proofs.Time.Pattern
import RemoteTable.Request.Template

/-!
The two JSON forms of a value against each other.

One is written for conversion, with patterns for dates and times, and the other for requests.  What a
reader sees of the form of requests is the form for conversion with the blank of each timestamp
replaced by a T and with null for each double that is not finite, at every depth:
`merged_encode_eq_toJson`.
-/

namespace RemoteTable
namespace Value

/-- Whether a value has no parts. -/
def isScalar : Value → Bool
  | .array _ | .map _ => false
  | _ => true

/-- Whether a value is neither a timestamp nor a double that is not finite. -/
def isPlain : Value → Bool
  | .timestamp _ => false
  | .float x => x.isFinite
  | _ => true

/-- One value occurs in another: it is the value itself, or it occurs in an item or under a key. -/
inductive Within (u : Value) : Value → Prop where
  | self : Within u u
  | item {v : Value} {items : List Value} (mem : v ∈ items) (within : Within u v) :
    Within u (.array items)
  | entry {key : String} {v : Value} {entries : List (String × Value)} (mem : (key, v) ∈ entries)
    (within : Within u v) : Within u (.map entries)

mutual

/-- The form for conversion, with what is written for each scalar replaced. -/
def toJsonWith (replace : Value → Json → Json) : Value → Json
  | .array items => .array (itemsToJsonWith replace items)
  | .map entries => Json.ofMembers (entriesToJsonWith replace entries)
  | v => replace v v.toJson

def itemsToJsonWith (replace : Value → Json → Json) : List Value → List Json
  | [] => []
  | item :: items => toJsonWith replace item :: itemsToJsonWith replace items

def entriesToJsonWith (replace : Value → Json → Json) : List (String × Value) → List (String × Json)
  | [] => []
  | (key, value) :: entries => (key, toJsonWith replace value) :: entriesToJsonWith replace entries

end

/-- The text of a scalar that is written by a pattern. -/
def patternText? : Value → Option (List Char)
  | .date d => PatternItem.writeAll? (some d) none Date.pattern
  | .time t => PatternItem.writeAll? none (some t) TimeOfDay.pattern
  | .timestamp t => PatternItem.writeAll? (some t.date) (some t.time) Timestamp.pattern
  | _ => none

/-- A scalar as its pattern writes it, if it has one. -/
def patterned (v : Value) (json : Json) : Json :=
  match v.patternText? with
  | some cs => .string (String.ofList cs)
  | none => json

/-- A scalar as requests carry it: with a T for the blank of a timestamp, and with null for a double
that is not finite. -/
def sent (v : Value) (json : Json) : Json :=
  match v, json with
  | .timestamp _, .string s =>
    .string (String.ofList (s.toList.map fun c => if c = ' ' then 'T' else c))
  | .float x, json => if x.isFinite then json else .null
  | _, json => json

/-! ## Traversals -/

theorem itemsToJson_eq_map (items : List Value) : itemsToJson items = items.map toJson :=
  eq_map_of_cons rfl (fun _ _ => rfl) items

theorem entriesToJson_eq_map (entries : List (String × Value)) :
    entriesToJson entries = entries.map (Prod.map id toJson) :=
  eq_map_of_cons rfl (fun _ _ => rfl) entries

theorem encodeItems_eq_map (items : List Value) : encodeItems items = items.map encode :=
  eq_map_of_cons rfl (fun _ _ => rfl) items

theorem encodeEntries_eq_map (entries : List (String × Value)) :
    encodeEntries entries = entries.map (Prod.map id encode) :=
  eq_map_of_cons rfl (fun _ _ => rfl) entries

theorem itemsToJsonWith_eq_map (replace : Value → Json → Json) (items : List Value) :
    itemsToJsonWith replace items = items.map (toJsonWith replace) :=
  eq_map_of_cons rfl (fun _ _ => rfl) items

theorem entriesToJsonWith_eq_map (replace : Value → Json → Json) (entries : List (String × Value)) :
    entriesToJsonWith replace entries = entries.map (Prod.map id (toJsonWith replace)) :=
  eq_map_of_cons rfl (fun _ _ => rfl) entries

/-- A form that puts items and entries together from their own forms, and sees the last entry of a
repeated key. -/
structure IsTraversal (form : Value → Json) : Prop where
  array (items : List Value) : form (.array items) = .array (items.map form)
  map (entries : List (String × Value)) :
    form (.map entries) = Json.ofMembers (entries.map (Prod.map id form))

theorem isTraversal_toJson : IsTraversal toJson where
  array items := by rw [toJson, itemsToJson_eq_map]
  map entries := by rw [toJson, entriesToJson_eq_map]

theorem isTraversal_toJsonWith (replace : Value → Json → Json) :
    IsTraversal (toJsonWith replace) where
  array items := by rw [toJsonWith, itemsToJsonWith_eq_map]
  map entries := by rw [toJsonWith, entriesToJsonWith_eq_map]

/-- What a reader sees of the form of requests. -/
theorem isTraversal_merged_encode : IsTraversal fun v => v.encode.merged where
  array items := by
    rw [encode, Json.merged, encodeItems_eq_map, Json.mergedItems_eq_map, List.map_map]
    rfl
  map entries := by
    rw [encode, Json.merged, encodeEntries_eq_map, Json.mergedMembers_eq_map, List.map_map]
    rfl

section Agreement

variable {form form' : Value → Json}

mutual

/-- Two traversals agree on a value if they agree on the scalars in it. -/
theorem IsTraversal.eq_of_scalars (h : IsTraversal form) (h' : IsTraversal form') : ∀ v : Value,
    (∀ u, Within u v → u.isScalar = true → form u = form' u) → form v = form' v
  | .array items, agree => by
    rw [h.array, h'.array]
    exact congrArg Json.array
      (h.items_eq_of_scalars h' items fun v mem u within => agree u (.item mem within))
  | .map entries, agree => by
    rw [h.map, h'.map]
    exact congrArg Json.ofMembers
      (h.entries_eq_of_scalars h' entries fun _ mem u within => agree u (.entry mem within))
  | .null, agree | .bool _, agree | .int _, agree | .float _, agree | .decimal _, agree
  | .string _, agree | .date _, agree | .time _, agree | .timestamp _, agree =>
    agree _ .self rfl

theorem IsTraversal.items_eq_of_scalars (h : IsTraversal form) (h' : IsTraversal form') :
    ∀ items : List Value,
      (∀ v ∈ items, ∀ u, Within u v → u.isScalar = true → form u = form' u) →
        items.map form = items.map form'
  | [], _ => rfl
  | v :: items, agree => by
    rw [List.map_cons, List.map_cons, h.eq_of_scalars h' v (agree v List.mem_cons_self),
      h.items_eq_of_scalars h' items fun v mem => agree v (List.mem_cons_of_mem _ mem)]

theorem IsTraversal.entries_eq_of_scalars (h : IsTraversal form) (h' : IsTraversal form') :
    ∀ entries : List (String × Value),
      (∀ entry ∈ entries, ∀ u, Within u entry.2 → u.isScalar = true → form u = form' u) →
        entries.map (Prod.map id form) = entries.map (Prod.map id form')
  | [], _ => rfl
  | (key, v) :: entries, agree => by
    rw [List.map_cons, List.map_cons,
      h.entries_eq_of_scalars h' entries fun entry mem => agree entry (List.mem_cons_of_mem _ mem)]
    exact congrArg (fun j => (key, j) :: _)
      (h.eq_of_scalars h' v (agree (key, v) List.mem_cons_self))

end

end Agreement

/-- The keys of an object come by their first entries, and each has the form of its last one. -/
theorem IsTraversal.object {form : Value → Json} (h : IsTraversal form)
    (entries : List (String × Value)) :
    form (.map entries) = .object ((Json.mergeMembers entries).map (Prod.map id form)) := by
  rw [h.map, Json.ofMembers, Json.mergeMembers_map]

/-! ## Scalars -/

theorem toJsonWith_of_isScalar {v : Value} (scalar : v.isScalar = true)
    {replace : Value → Json → Json} : v.toJsonWith replace = replace v v.toJson := by
  cases v with
  | array items => cases scalar
  | map entries => cases scalar
  | _ => rfl

theorem patterned_toJson {v : Value} (scalar : v.isScalar = true) :
    patterned v v.toJson = v.toJson := by
  cases v with
  | date d => rw [patterned, patternText?, PatternItem.writeAll?_datePattern]; rfl
  | time t => rw [patterned, patternText?, PatternItem.writeAll?_timePattern]; rfl
  | timestamp t => rw [patterned, patternText?, PatternItem.writeAll?_timestampPattern]; rfl
  | array items => cases scalar
  | map entries => cases scalar
  | _ => rfl

/-- There is no other blank in a timestamp. -/
theorem map_timestampText (t : Timestamp) :
    (t.text ' ').map (fun c => if c = ' ' then 'T' else c) = t.text 'T' := by
  have kept {cs : List Char} (solid : ∀ c ∈ cs, Text.isBlank c = false) :
      cs.map (fun c => if c = ' ' then 'T' else c) = cs := by
    have each : ∀ c ∈ cs, (if c = ' ' then 'T' else c) = c := by
      intro c mem
      refine if_neg fun blank => ?_
      rw [blank] at mem
      exact Bool.false_ne_true (solid ' ' mem).symm
    rw [List.map_congr_left each, List.map_id']
  rw [Timestamp.text, Timestamp.text, List.map_append, List.map_cons, if_pos rfl,
    kept fun c mem => (Time.isNumeral_of_mem_dateText mem).isBlank,
    kept fun c mem => Time.isBlank_of_mem_timeText mem]

theorem merged_encode_of_isScalar {v : Value} (scalar : v.isScalar = true) :
    v.encode.merged = sent v v.toJson := by
  cases v with
  | float x =>
    by_cases finite : x.isFinite = true <;> simp [encode, toJson, sent, Json.merged, finite]
  | timestamp t =>
    rw [toJson, sent, String.toList_ofList, map_timestampText]
    rfl
  | array items => cases scalar
  | map entries => cases scalar
  | _ => rfl

theorem sent_toJson {v : Value} (plain : v.isPlain = true) : sent v v.toJson = v.toJson := by
  cases v with
  | float x => exact if_pos plain
  | timestamp t => cases plain
  | _ => rfl

theorem merged_encode (v : Value) : v.encode.merged = v.toJsonWith sent :=
  isTraversal_merged_encode.eq_of_scalars (isTraversal_toJsonWith sent) v fun u _ scalar => by
    rw [merged_encode_of_isScalar scalar, toJsonWith_of_isScalar scalar]

end Value

/-! ## Nested documents -/

/-- A criterion of a nested document. -/
def Criterion.nested (c : Criterion) : Json :=
  .object [("name", .string c.name), ("operator", .string c.operator.symbol),
    ("value", c.value.toJsonWith Value.sent)]

theorem Criterion.merged_encode (c : Criterion) : c.encode.merged = c.nested := by
  rw [Criterion.nested, ← Value.merged_encode]
  rfl

theorem Template.nested_eq (t : Template) :
    t.nested =
      .object [("form", .string t.filters.form.name),
        ("filters", .array (t.filters.groups.map fun group =>
          .array (group.map Criterion.nested)))] := by
  have groups : t.filters.encode.merged =
      .array (t.filters.groups.map fun group => .array (group.map Criterion.nested)) := by
    rw [Groups.encode, Json.merged, Json.mergedItems_eq_map, List.map_map]
    refine congrArg Json.array (List.map_congr_left fun group _ => ?_)
    show Json.merged (.array (group.map Criterion.encode)) = _
    rw [Json.merged, Json.mergedItems_eq_map, List.map_map]
    exact congrArg Json.array (List.map_congr_left fun c _ => c.merged_encode)
  rw [← groups]
  rfl

namespace Value

/-- The two forms of a value.  Requests carry the form for conversion with each timestamp and each
double that is not finite replaced, and unchanged where neither occurs; so does the nested document
of a template.  The patterns by which dates and times are written for conversion and the way they are
written for requests agree.  In both forms the keys of an object stand where their first entries do,
with the values of their last ones. -/
theorem merged_encode_eq_toJson (v : Value) :
    v.encode.merged = v.toJsonWith sent ∧
      v.toJson = v.toJsonWith (fun _ json => json) ∧
      v.toJson = v.toJsonWith patterned ∧
      ((∀ u, Within u v → u.isPlain = true) → v.encode.merged = v.toJson) ∧
      (∀ entries, v = .map entries →
        ∃ seen : List (String × Value),
          seen.map Prod.fst = (entries.map Prod.fst).eraseDups ∧
            (∀ key, seen.lookup key = entries.reverse.lookup key) ∧
            v.toJson = .object (seen.map (Prod.map id toJson)) ∧
            v.encode.merged = .object (seen.map (Prod.map id fun u => u.encode.merged))) ∧
      ∀ t : Template, t.nested =
        .object [("form", .string t.filters.form.name),
          ("filters", .array (t.filters.groups.map fun group =>
            .array (group.map Criterion.nested)))] := by
  refine ⟨merged_encode v, ?_, ?_, fun plain => ?_, ?_, Template.nested_eq⟩
  · refine isTraversal_toJson.eq_of_scalars (isTraversal_toJsonWith _) v fun u _ scalar => ?_
    rw [toJsonWith_of_isScalar scalar]
  · refine isTraversal_toJson.eq_of_scalars (isTraversal_toJsonWith _) v fun u _ scalar => ?_
    rw [toJsonWith_of_isScalar scalar, patterned_toJson scalar]
  · refine isTraversal_merged_encode.eq_of_scalars isTraversal_toJson v fun u within scalar => ?_
    rw [merged_encode_of_isScalar scalar, sent_toJson (plain u within)]
  · rintro entries rfl
    exact ⟨Json.mergeMembers entries, Json.keys_mergeMembers entries,
      fun key => Json.lookup_mergeMembers key entries, isTraversal_toJson.object entries,
      isTraversal_merged_encode.object entries⟩

/-- A stay whose arrival was corrected, with a rating that is no number. -/
def sampleStay : Value :=
  .map [("arrival", .null), ("rating", .float .nan),
    ("arrival", .timestamp ⟨⟨12034, 5, 6, by decide⟩, ⟨61200, 70000000, by decide, by decide⟩⟩)]

/-- Days and hours without a date. -/
def sampleHours : Value :=
  .map [("day", .date ⟨-7, 3, 9, by decide⟩),
    ("open", .array [.time ⟨30660, 250000000, by decide, by decide⟩, .float (.zero true)]),
    ("day", .null)]

/-- The stay's corrected arrival stands first, in the year 12034 with its sign; the hours are the same
in both forms. -/
theorem merged_encode_sampleStay :
    sampleStay.encode.merged =
        .object [("arrival", .string "+12034-05-06T17:00:00.070"), ("rating", .null)] ∧
      sampleHours.encode.merged = sampleHours.toJson ∧
      (∃ members, sampleHours.toJson = .object members ∧ members.map Prod.fst = ["day", "open"]) := by
  have hours := merged_encode_eq_toJson sampleHours
  refine ⟨(merged_encode_eq_toJson sampleStay).1.trans ?_, hours.2.2.2.1 ?_, ?_⟩
  · rfl
  · unfold sampleHours
    intro u within
    cases within with
    | self => rfl
    | entry mem within =>
      simp only [List.mem_cons, Prod.mk.injEq, List.not_mem_nil, or_false] at mem
      rcases mem with ⟨-, rfl⟩ | ⟨-, rfl⟩ | ⟨-, rfl⟩
      · cases within with
        | self => rfl
      · cases within with
        | self => rfl
        | item mem within =>
          simp only [List.mem_cons, List.not_mem_nil, or_false] at mem
          rcases mem with rfl | rfl
          · cases within with
            | self => rfl
          · cases within with
            | self => rfl
      · cases within with
        | self => rfl
  · obtain ⟨seen, keys, -, object, -⟩ := hours.2.2.2.2.1 _ rfl
    refine ⟨_, object, ?_⟩
    rw [List.map_map]
    exact keys

end Value
end RemoteTable
