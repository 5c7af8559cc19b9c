import TableLayout.Proofs.Key.Agreement
import TableLayout.Proofs.Layout.Agreement
import TableLayout.Proofs.Resolve.Steps

/-!
# Records that count as equal

What a caller found for one record may be handed out for another whose schemas count as equal.

- `Resolve.remaining_agree`, `Resolve.layout_alike`: the columns outside the key, and the layout.
- `Resolve.split_alike`: the parts of a resolution.
- `Resolution.Interchangeable`: two resolutions that no caller needs to tell apart.
- `Resolve.interchangeable_of_agrees`: records that count as equal have such resolutions.
-/

namespace TableLayout

/-- Two resolutions have layouts that count as equal and fall together as keys, or they fail for the
same reason, with the same words. They are logged alike. -/
structure Resolution.Interchangeable (a b : Resolution) : Prop where
  outcome : Alike Layout.Interchangeable a.outcome b.outcome
  events : a.events = b.events

namespace Resolve

variable {whitelist : List String} {request request' : KeyRequest} {mode : KeyMode}
  {key key' : KeyColumns} {others others' : List Column}

/-! ## The steps -/

theorem checkValue_eq_of_agrees (h : request.Agrees request') :
    checkValue mode request = checkValue mode request' := by
  unfold checkValue
  rcases Schema.agreeParts_elim h.value with
    ⟨hvalue, hvalue'⟩ | ⟨value, value', hvalue, hvalue', hagrees⟩
  · rw [hvalue, hvalue']
  · simp only [hvalue, hvalue', KeyRequest.reject, h.table, Schema.type_eq_of_agrees hagrees,
      Schema.isStruct_eq_of_agrees hagrees]

/-- The columns outside the key are the fields of the same names. -/
theorem remaining_agree (h : request.Agrees request') (hkey : key.Agrees key') :
    Column.AllAgree (remaining mode whitelist request key)
      (remaining mode whitelist request' key') := by
  have hfields : List.Forall₂ Field.Agrees ((request.value.map Schema.fields).getD [])
      ((request'.value.map Schema.fields).getD []) := by
    rcases Schema.agreeParts_elim h.value with
      ⟨hvalue, hvalue'⟩ | ⟨value, value', hvalue, hvalue', hagrees⟩
    · rw [hvalue, hvalue']
      exact .nil
    · rw [hvalue, hvalue']
      exact Schema.fields_of_agrees hagrees
  unfold remaining
  refine List.rel_map (fun field field' hfield => ?_) (filter_of_forall₂ hfields ?_)
  · exact Column.agrees_iff.mpr ⟨hfield.name, hfield.schema, rfl⟩
  · intro field field' hfield
    rw [hfield.name, hkey.names_eq]

theorem columnMap_related (hkey : key.Agrees key') (hothers : Column.AllAgree others others') :
    NameMap.Related (fun a b => a.agrees b = true) (columnMap key others)
      (columnMap key' others') := by
  have hall : Column.AllAgree (key.columns ++ others) (key'.columns ++ others') :=
    List.rel_append hkey.columns hothers
  refine NameMap.ofList_related (List.rel_map (fun a b hab => ?_) hall)
  exact ⟨(Column.agrees_iff.mp hab).1, hab⟩

/-- Agreeing columns make interchangeable layouts, or fail alike. -/
theorem layout_alike (hkey : key.Agrees key') (hothers : Column.AllAgree others others') :
    Alike Layout.Interchangeable (Resolve.layout key others) (Resolve.layout key' others') := by
  have hmake := Layout.make_alike (columnMap_related hkey hothers) key'.names
    (others'.map Column.name) key'.keySourced
  unfold Resolve.layout
  rw [hkey.names_eq, hothers.names_eq, hkey.keySourced]
  rcases hmake.cases with
    ⟨layout, layout', hlayout, hlayout', hrelated⟩ | ⟨defect, hdefect, hdefect'⟩
  · rw [hlayout, hlayout']
    exact .ok hrelated
  · rw [hdefect, hdefect']
    exact .error _

/-- The parts of two resolutions count as equal. -/
structure PartsAgree (parts parts' : KeyMode × KeyColumns × List Column) : Prop where
  mode : parts.1 = parts'.1
  key : parts.2.1.Agrees parts'.2.1
  others : Column.AllAgree parts.2.2 parts'.2.2

/-- Agreeing records come out in agreeing parts, or fail alike. -/
theorem split_alike (h : request.Agrees request') (given : Datum) (whitelist : List String) :
    Alike PartsAgree (split given whitelist request) (split given whitelist request') := by
  rw [split_eq_bind, split_eq_bind, h.table, h.digits]
  refine Alike.bind_same fun mode => ?_
  rw [checkValue_eq_of_agrees h]
  refine Alike.bind_same fun _ => ?_
  refine (Key.derive_alike h mode).bind fun key key' hkey => ?_
  have hothers : Column.AllAgree (remaining mode whitelist request key)
      (remaining mode whitelist request' key') := remaining_agree h hkey
  have hall : Column.AllAgree (key.columns ++ remaining mode whitelist request key)
      (key'.columns ++ remaining mode whitelist request' key') :=
    List.rel_append hkey.columns hothers
  have hempty : key.columns ++ remaining mode whitelist request key = [] ↔
      key'.columns ++ remaining mode whitelist request' key' = [] := by
    rw [← List.length_eq_zero_iff, ← List.length_eq_zero_iff, hall.length_eq]
  rw [if_congr hempty rfl rfl]
  split_ifs
  · exact KeyRequest.reject_alike h.table _
  · exact .ok ⟨rfl, hkey, hothers⟩

/-! ## The whole resolution -/

/-- For records whose schemas count as equal, and which are the same besides, the same call leads to
layouts that count as equal and fall together as keys, or to the same rejection with the same words.
So a layout may be kept for all records that count as equal. -/
theorem interchangeable_of_agrees (h : request.Agrees request') (given : Datum)
    (whitelist : List String) :
    (resolve given whitelist request).Interchangeable (resolve given whitelist request') := by
  -- Both splits succeed with related parts or fail alike, and so do the layouts made of the parts.
  rcases (split_alike h given whitelist).cases with
    ⟨⟨mode, key, others⟩, ⟨mode', key', others'⟩, hsplit, hsplit', hparts⟩ |
      ⟨failure, hsplit, hsplit'⟩
  · obtain ⟨rfl, hkey, hothers⟩ := hparts
    rcases (layout_alike hkey hothers).cases with
      ⟨layout, layout', hlayout, hlayout', hrelated⟩ | ⟨failure, hlayout, hlayout'⟩
    · simp only [resolve, hsplit, hsplit', hlayout, hlayout']
      refine ⟨.ok hrelated, ?_⟩
      rw [h.table, hrelated.keyNames, hrelated.otherNames]
    · simp only [resolve, hsplit, hsplit', hlayout, hlayout']
      exact ⟨.error failure, rfl⟩
  · simp only [resolve, hsplit, hsplit', h.table]
    cases failure with
    | rejected rejection => exact ⟨.error _, rfl⟩
    | defect defect => exact ⟨.error _, rfl⟩

/-- A record whose key and value have fields with a default. -/
def requestWithDefault (default : Datum) : KeyRequest :=
  let field : Schema := { Schema.ofType .int32 true with default }
  { table := "orders"
    key := some { Schema.ofType .struct false with fields := Schema.numbered [("id", field)] }
    value := some { Schema.ofType .struct false with
      fields := Schema.numbered [("id", field), ("count", field)] } }

/-- A one and a true make two schemas that count as equal, though they are not the same. -/
theorem requestWithDefault_interchangeable :
    (requestWithDefault (.int 1)).Agrees (requestWithDefault (.bool true)) ∧
      (requestWithDefault (.int 1)).key ≠ (requestWithDefault (.bool true)).key ∧
      (resolve (.text "record_key") [] (requestWithDefault (.int 1))).Interchangeable
        (resolve (.text "record_key") [] (requestWithDefault (.bool true))) ∧
      ∃ layout, (resolve (.text "record_key") [] (requestWithDefault (.int 1))).outcome =
        .ok layout ∧ layout.keyNames = ["id"] ∧ layout.otherNames = ["count"] := by
  have hdefault : (Datum.int 1).agrees (.bool true) = true := by
    simp [Datum.agrees, Datum.bothEqual, Datum.number?]
  have hagrees : (requestWithDefault (.int 1)).Agrees (requestWithDefault (.bool true)) := by
    refine ⟨rfl, ?_, ?_, rfl, rfl, rfl, rfl, rfl⟩ <;>
      simp [requestWithDefault, Schema.numbered, Schema.ofType, Schema.agreeParts, Schema.agrees,
        Schema.agreeFields, Datum.agrees, hdefault]
  refine ⟨hagrees, ?_, interchangeable_of_agrees hagrees _ _, _, rfl, rfl, rfl⟩
  simp [requestWithDefault, Schema.numbered, Schema.ofType]

end Resolve

end TableLayout
