import Mathlib.Data.List.Nodup
import Outline.Proofs.Json.Lines
import Outline.Proofs.Query.Words
import Outline.Session.Event

/-!
# One event, one line

An event is written as one JSON object, and read back from it (`ofLine_toLine`); from a part of its
line nothing is read (`ofLine_part`). The line breaks only where a text of the event does
(`mem_toLine_iff`).
-/
namespace Outline

open Json Text

/-! ## What an event carries -/

def Range.numbers (r : Range) : List Nat :=
  [r.start.line, r.start.character, r.stop.line, r.stop.character]

namespace Call

/-- The texts that a call carries. -/
def texts : Call → List Text
  | .show items active => items ++ active.toList
  | setQuery t => [t]
  | reveal _ | decorate _ | accept _ | close => []

/-- The whole numbers that a call carries. -/
def numbers : Call → List Nat
  | .show .. | setQuery _ | close => []
  | reveal r | accept r => r.numbers
  | decorate rs => rs.flatMap Range.numbers

end Call

namespace Event

/-- The texts that an event carries. -/
def texts (e : Event) : List Text := e.sessionId :: e.call.texts

/-- Whether the whole numbers of an event have no more digits than can be read. -/
def Countable (e : Event) : Prop :=
  ∀ n ∈ e.seq :: e.call.numbers, (Text.ofNat n).length ≤ maxDigits

instance (e : Event) : Decidable e.Countable :=
  inferInstanceAs (Decidable (∀ n ∈ e.seq :: e.call.numbers, _))

end Event

/-! ## Objects with named fields -/

namespace Json

theorem writable_ofNat {n depth : Nat} (h : (Text.ofNat n).length ≤ maxDigits) :
    Writable depth (.ofNat n) := .int n h

theorem writable_mkObj {depth : Nat} {fields : List (String × Json)}
    (hk : (fields.map (·.1)).Nodup) (h : ∀ f ∈ fields, Writable depth f.2) :
    Writable (depth + 1) (mkObj fields) := by
  have hnames : ((fields.map (·.1)).map String.toList).Nodup :=
    List.Nodup.map (fun _ _ h => String.toList_inj.mp h) hk
  refine .obj ?_ ?_
  · rw [List.map_map] at hnames ⊢
    exact hnames
  · intro f hf
    obtain ⟨g, hg, rfl⟩ := List.mem_map.mp hf
    exact h g hg

end Json

/-! ## What a call carries -/

section

variable {depth : Nat}

theorem Range.writable_toJson {r : Range}
    (h : ∀ n ∈ r.numbers, (Text.ofNat n).length ≤ maxDigits) :
    Writable (depth + 2) r.toJson := by
  simp only [numbers, List.forall_mem_cons] at h
  obtain ⟨hsl, hsc, hel, hec, -⟩ := h
  refine writable_mkObj (by simp) ?_
  simp only [List.forall_mem_cons, List.not_mem_nil, false_implies, implies_true, and_true]
  refine ⟨writable_mkObj (by simp) ?_, writable_mkObj (by simp) ?_⟩
  · simp only [List.forall_mem_cons, List.not_mem_nil, false_implies, implies_true, and_true]
    exact ⟨writable_ofNat hsl, writable_ofNat hsc⟩
  · simp only [List.forall_mem_cons, List.not_mem_nil, false_implies, implies_true, and_true]
    exact ⟨writable_ofNat hel, writable_ofNat hec⟩

theorem Call.writable_data {c : Call}
    (h : ∀ n ∈ c.numbers, (Text.ofNat n).length ≤ maxDigits) : Writable (depth + 3) c.data := by
  cases c with
  | «show» items active =>
    refine writable_mkObj (by simp) ?_
    simp only [List.forall_mem_cons, List.not_mem_nil, false_implies, implies_true, and_true]
    constructor
    · refine .arr fun j hj => ?_
      obtain ⟨t, -, rfl⟩ := List.mem_map.mp hj
      exact .str t
    · cases active with
      | none => exact .null
      | some t => exact .str t
  | setQuery t => exact .str t
  | reveal r => exact (Range.writable_toJson h : Writable (depth + 1 + 2) r.toJson)
  | decorate rs =>
    refine .arr fun j hj => ?_
    obtain ⟨r, hr, rfl⟩ := List.mem_map.mp hj
    exact Range.writable_toJson fun n hn => h n (List.mem_flatMap.mpr ⟨r, hr, hn⟩)
  | accept r => exact (Range.writable_toJson h : Writable (depth + 1 + 2) r.toJson)
  | close => exact .null

end

section

variable {c : Char} (hc : isWideBreak c = true)

include hc

theorem not_mem_of_ascii {t : Text} (ht : (t.all fun x => x.toNat < 128) = true) : c ∉ t := by
  intro h
  have hsmall : c.toNat < 128 := by simpa using List.all_eq_true.mp ht c h
  simp only [isWideBreak, Bool.or_eq_true, beq_iff_eq] at hc
  rcases hc with (rfl | rfl) | rfl <;> exact absurd hsmall (by decide)

/-- Where the names of the fields are ASCII, only the values break lines. -/
theorem inTexts_mkObj_iff (names : List String) {fields : List (String × Json)}
    (hnames : fields.map (·.1) = names)
    (hascii : (names.all fun n => n.toList.all fun x => x.toNat < 128) = true) :
    InTexts c (mkObj fields) ↔ ∃ f ∈ fields, InTexts c f.2 := by
  subst hnames
  rw [mkObj, inTexts_obj_iff]
  constructor
  · rintro ⟨f, hf, h⟩
    obtain ⟨g, hg, rfl⟩ := List.mem_map.mp hf
    have hname := List.all_eq_true.mp hascii g.1 (List.mem_map_of_mem hg)
    exact ⟨g, hg, h.resolve_left (not_mem_of_ascii hc hname)⟩
  · rintro ⟨f, hf, h⟩
    exact ⟨_, List.mem_map_of_mem hf, Or.inr h⟩

theorem Position.not_inTexts_toJson (p : Position) : ¬InTexts c p.toJson := by
  rw [Position.toJson, inTexts_mkObj_iff hc ["line", "character"] rfl (by decide)]
  rintro ⟨f, hf, h⟩
  simp only [List.mem_cons, List.not_mem_nil, or_false] at hf
  rcases hf with rfl | rfl <;> exact not_inTexts_int h

theorem Range.not_inTexts_toJson (r : Range) : ¬InTexts c r.toJson := by
  rw [Range.toJson, inTexts_mkObj_iff hc ["start", "end"] rfl (by decide)]
  rintro ⟨f, hf, h⟩
  simp only [List.mem_cons, List.not_mem_nil, or_false] at hf
  rcases hf with rfl | rfl <;> exact Position.not_inTexts_toJson hc _ h

theorem Call.inTexts_data_iff (call : Call) :
    InTexts c call.data ↔ ∃ t ∈ call.texts, c ∈ t := by
  cases call with
  | «show» items active =>
    rw [data, inTexts_mkObj_iff hc ["items", "active"] rfl (by decide)]
    simp only [List.mem_cons, List.not_mem_nil, or_false, exists_eq_left,
      inTexts_arr_iff, List.mem_map, exists_exists_and_eq_and, inTexts_str_iff, texts,
      List.mem_append, or_and_right, exists_or]
    refine or_congr Iff.rfl ?_
    cases active with
    | none => simp [Json.ofOption, not_inTexts_null]
    | some t => simp [Json.ofOption, inTexts_str_iff]
  | setQuery t => simp [data, texts, inTexts_str_iff]
  | reveal r => simp [data, texts, Range.not_inTexts_toJson hc]
  | decorate rs => simp [data, texts, inTexts_arr_iff, Range.not_inTexts_toJson hc]
  | accept r => simp [data, texts, Range.not_inTexts_toJson hc]
  | close => simp [data, texts, not_inTexts_null]

end

/-! ## The line of an event -/

namespace LoggedEvent

def toJson (stamp : Text) (e : LoggedEvent) : Json :=
  mkObj [("session_id", .str e.sessionId), ("seq", .ofNat e.seq), ("ts", .str stamp),
    ("event_type", .ofString e.type.name), ("data", e.data)]

theorem toLine_eq (stamp : Text) (e : LoggedEvent) : e.toLine stamp = (e.toJson stamp).render := rfl

theorem writable_toJson {e : Event} (h : e.Countable) (stamp : Text) :
    Writable maxDepth ((ofEvent e).toJson stamp) := by
  obtain ⟨hseq, hnumbers⟩ := List.forall_mem_cons.mp h
  have hfields : Writable (199 + 1) ((ofEvent e).toJson stamp) := by
    refine writable_mkObj (by simp) ?_
    simp only [List.forall_mem_cons, List.not_mem_nil, false_implies, implies_true, and_true]
    exact ⟨.str _, writable_ofNat hseq, .str _, .str _, Call.writable_data hnumbers⟩
  exact hfields

theorem checkType_name (t : EventType) : checkType (.ofString t.name) = .ok t := by
  cases t <;> rfl

theorem checkData_data (c : Call) : checkData c.data = .ok c.data := by
  cases c <;> rfl

theorem check_eq (stamp : Text) (e : Event) :
    check ((ofEvent e).toJson stamp) =
      (((Record.text (.str e.sessionId)).inside "session_id".toList).both
        (((Record.intAtLeast 1 (.ofNat e.seq)).inside "seq".toList).both
          (((Record.Timestamp.check (.str stamp)).inside "ts".toList).both
            (((checkType (.ofString e.call.type.name)).inside "event_type".toList).both
              ((checkData e.call.data).inside "data".toList))))).map
        fun (s, n, _, t, d) => ⟨s, n, t, d⟩ :=
  rfl

/-- An event is what its object says. -/
theorem check_toJson {e : Event} (hseq : 1 ≤ e.seq) {stamp : Text}
    (hs : Record.Timestamp.readable stamp = true) :
    check ((ofEvent e).toJson stamp) = .ok (ofEvent e) := by
  have hnumber : Record.intAtLeast 1 (.ofNat e.seq) = .ok e.seq := by
    have hle : ¬(e.seq : Int) < (1 : Nat) := by omega
    change (if (e.seq : Int) < (1 : Nat) then Record.fail .greaterThanEqual
      else .ok (e.seq : Int).toNat) = _
    rw [if_neg hle]
    rfl
  have hstamp : Record.Timestamp.check (.str stamp) = .ok () := by
    rw [Record.Timestamp.check, if_pos hs]
  rw [check_eq, hnumber, hstamp, checkType_name, checkData_data]
  rfl

theorem ofLine_toLine {e : Event} (h : e.Countable) (hseq : 1 ≤ e.seq) {stamp : Text}
    (hs : Record.Timestamp.readable stamp = true) :
    ofLine ((ofEvent e).toLine stamp) = .ok (ofEvent e) := by
  rw [toLine_eq, ofLine, read?_render (writable_toJson h stamp)]
  exact check_toJson hseq hs

/-- Nothing is read from a part of the line of an event. -/
theorem ofLine_part {e : Event} (h : e.Countable) {stamp p u : Text}
    (hpart : (ofEvent e).toLine stamp = p ++ u) (hu : u ≠ []) :
    ofLine p = Record.fail .jsonInvalid := by
  rw [ofLine, read?_part (writable_toJson h stamp) hpart hu]

/-- Where the line of an event breaks: in a text that it carries, or in the stamp. -/
theorem mem_toLine_iff {e : Event} (h : e.Countable) (stamp : Text) {c : Char}
    (hc : isLineBoundary c = true) :
    c ∈ (ofEvent e).toLine stamp ↔
      isWideBreak c = true ∧ ∃ t ∈ stamp :: e.texts, c ∈ t := by
  have hname : ∀ t : EventType, (t.name.toList.all fun x => x.toNat < 128) = true := by
    intro t
    cases t <;> decide
  rw [toLine_eq, render, mem_write_iff hc (writable_toJson h stamp)]
  refine and_congr_right fun hwide => ?_
  rw [toJson, inTexts_mkObj_iff hwide ["session_id", "seq", "ts", "event_type", "data"] rfl
    (by decide)]
  have hid : InTexts c (.str (ofEvent e).sessionId) ↔ c ∈ e.sessionId := inTexts_str_iff
  have hseq : ¬InTexts c (.ofNat (ofEvent e).seq) := not_inTexts_int
  have htype : ¬InTexts c (.ofString (ofEvent e).type.name) := fun h =>
    not_mem_of_ascii hwide (hname _) (inTexts_str_iff.mp h)
  have hdata : InTexts c (ofEvent e).data ↔ ∃ t ∈ e.call.texts, c ∈ t :=
    Call.inTexts_data_iff hwide e.call
  simp only [List.mem_cons, List.not_mem_nil, or_false, exists_eq_or_imp, exists_eq_left,
    Event.texts, hid, hseq, inTexts_str_iff, htype, hdata, false_or]
  exact or_left_comm

end LoggedEvent

end Outline
