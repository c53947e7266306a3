import Outline.Proofs.Record.Timestamp
import Outline.Proofs.Session.EventLine
import Outline.Proofs.Session.Events
import Outline.Proofs.Text.Utf8
import Outline.Session.Scribe

/-!
# The log of events

A recorder that writes every event at the end of a file leaves the lines of its events there
(`Scribe.holds_run`). They are read back as these events, one by one, unless a text of an event has
a line boundary beyond ASCII: that is written as it is, so the line of the event falls apart when
the file is read, and the log cannot be read at all (`Scribe.readBack_iff`).
-/
namespace Outline

open Text

/-- Whether a text that an event carries has a line boundary beyond ASCII. -/
def Event.BreaksLines (e : Event) : Prop := ∃ t ∈ e.texts, t.BreaksLines

instance (e : Event) : Decidable e.BreaksLines :=
  inferInstanceAs (Decidable (∃ t ∈ e.texts, t.BreaksLines))

namespace Text

theorem exists_append_trimRight (t : Text) : ∃ u, t = t.trimRight ++ u := by
  induction t with
  | nil => exact ⟨[], rfl⟩
  | cons c cs ih =>
    obtain ⟨u, hu⟩ := ih
    rw [trimRight]
    split
    · rename_i h
      split
      · exact ⟨c :: cs, rfl⟩
      · exact ⟨cs, rfl⟩
    · rename_i h
      refine ⟨u, ?_⟩
      rw [List.cons_append, ← hu]

theorem trim_cons {c : Char} (hc : isBlank c = false) (t : Text) :
    trim (c :: t) = c :: t.trimRight := by
  rw [trim, trimLeft, List.dropWhile_cons_of_neg (by simp [hc]), trimRight_cons hc]

end Text

namespace LoggedEvent

/-! ## Reading lines -/

/-- An event with its time stamp that can be read back. -/
structure Fit (x : Text × Event) : Prop where
  readable : Record.Timestamp.readable x.1 = true
  countable : x.2.Countable
  numbered : 1 ≤ x.2.seq

/-- The line of an event with its time stamp. -/
def lineOf (x : Text × Event) : Text := (ofEvent x.2).toLine x.1

/-- The lines of events with their time stamps. -/
def logOf (xs : List (Text × Event)) : Text := xs.flatMap fun x => toLog x.1 [x.2]

theorem logOf_cons (x : Text × Event) (xs : List (Text × Event)) :
    logOf (x :: xs) = lineOf x ++ '\n' :: logOf xs := by
  simp [logOf, toLog, lineOf]

theorem exists_lineOf_eq (x : Text × Event) : ∃ t, lineOf x = '\x7b' :: (t ++ ['\x7d']) :=
  ⟨_, rfl⟩

theorem trim_lineOf (x : Text × Event) : (lineOf x).trim = lineOf x := by
  obtain ⟨t, ht⟩ := exists_lineOf_eq x
  have hlast : trimRight ['\x7d'] = ['\x7d'] := rfl
  rw [ht, trim_cons rfl, trimRight_append_of_ne (by rw [hlast]; exact List.cons_ne_nil _ _), hlast]

theorem ofLines_of_trim {line t : Text} (ht : line.trim = t) (hne : t ≠ []) (ls : List Text) :
    ofLines (line :: ls) = (ofLine t).bind fun e => (ofLines ls).map (e :: ·) := by
  rw [ofLines, ht, if_neg (by simpa using hne)]
  cases ofLine t with
  | error issues => rfl
  | ok e => cases ofLines ls <;> rfl

/-- A line of an event is read as that event. -/
theorem ofLines_lineOf {x : Text × Event} (h : Fit x) (ls : List Text) :
    ofLines (lineOf x :: ls) = (ofLines ls).map (ofEvent x.2 :: ·) := by
  obtain ⟨t, ht⟩ := exists_lineOf_eq x
  rw [ofLines_of_trim (trim_lineOf x) (by rw [ht]; exact List.cons_ne_nil _ _), lineOf,
    ofLine_toLine h.countable h.numbered h.readable]
  rfl

/-- A line that is a part of that of an event is not read. -/
theorem ofLines_part {x : Text × Event} (h : Fit x) {p u : Text} (hp : p ≠ [])
    (hpart : lineOf x = p ++ u) (hu : u ≠ []) (ls : List Text) :
    ofLines (p :: ls) = Record.fail .jsonInvalid := by
  obtain ⟨t, ht⟩ := exists_lineOf_eq x
  obtain ⟨c, p, rfl⟩ := List.exists_cons_of_ne_nil hp
  have hc : c = '\x7b' := (List.cons.inj (ht.symm.trans hpart)).1.symm
  subst hc
  obtain ⟨blanks, hblanks⟩ := Text.exists_append_trimRight p
  have hcut : lineOf x = ('\x7b' :: Text.trimRight p) ++ (blanks ++ u) := by
    rw [hpart, List.cons_append, List.cons_append, ← List.append_assoc, ← hblanks]
  rw [ofLines_of_trim (trim_cons rfl p) (List.cons_ne_nil _ _),
    ofLine_part h.countable hcut (by simp [hu])]
  rfl

/-! ## Reading logs -/

/-- The line of an event breaks where one of its texts does. -/
theorem breaksLines_iff {x : Text × Event} (h : Fit x) :
    x.2.BreaksLines ↔ ∃ c ∈ lineOf x, isLineBoundary c = true := by
  constructor
  · rintro ⟨t, ht, c, hc, hwide⟩
    have hb := (isWideBreak_iff.mp hwide).1
    exact ⟨c, (mem_toLine_iff h.countable x.1 hb).mpr ⟨hwide, t, List.mem_cons_of_mem _ ht, hc⟩, hb⟩
  · rintro ⟨c, hc, hb⟩
    obtain ⟨hwide, t, ht, hct⟩ := (mem_toLine_iff h.countable x.1 hb).mp hc
    rcases List.mem_cons.mp ht with rfl | ht
    · exact absurd ⟨c, hct, hwide⟩ (Record.Timestamp.not_breaksLines_of_readable h.readable)
    · exact ⟨t, ht, c, hct, hwide⟩

theorem ofLog_cons {x : Text × Event} (h : Fit x) (hx : ¬x.2.BreaksLines)
    (xs : List (Text × Event)) :
    ofLog (logOf (x :: xs)) = (ofLog (logOf xs)).map (ofEvent x.2 :: ·) := by
  have hwhole : ∀ c ∈ lineOf x, isLineBoundary c = false := by
    intro c hc
    rw [← Bool.not_eq_true]
    exact fun hb => hx ((breaksLines_iff h).mpr ⟨c, hc, hb⟩)
  rw [ofLog, logOf_cons, lines_append hwhole rfl (by decide), ofLines_lineOf h, ofLog]

/-- The first line boundary in the line of an event leaves a part of it in front. -/
theorem ofLog_broken {x : Text × Event} (h : Fit x) (hx : x.2.BreaksLines)
    (xs : List (Text × Event)) : ofLog (logOf (x :: xs)) = Record.fail .jsonInvalid := by
  obtain ⟨b, hfind⟩ := Option.isSome_iff_exists.mp
    (List.find?_isSome.mpr ((breaksLines_iff h).mp hx))
  obtain ⟨hb, p, u, hcut, hp⟩ := List.find?_eq_some_iff_append.mp hfind
  have hwide : isWideBreak b = true :=
    ((mem_toLine_iff h.countable x.1 hb).mp (List.mem_of_find?_eq_some hfind)).1
  have hr : b ≠ '\r' := by
    rintro rfl
    exact absurd hwide (by decide)
  have hne : p ≠ [] := by
    rintro rfl
    obtain ⟨t, ht⟩ := exists_lineOf_eq x
    obtain rfl : '\x7b' = b := (List.cons.inj (ht.symm.trans hcut)).1
    exact absurd hwide (by decide)
  have hfront : ∀ c ∈ p, isLineBoundary c = false := fun c hc => by simpa using hp c hc
  rw [ofLog, logOf_cons, hcut, List.append_assoc, List.cons_append, lines_append hfront hb hr,
    ofLines_part h hne hcut (List.cons_ne_nil _ _)]

/-- What comes of reading a log: its events, unless the line of one of them falls apart. -/
theorem ofLog_logOf {xs : List (Text × Event)} (h : ∀ x ∈ xs, Fit x) :
    ((∀ x ∈ xs, ¬x.2.BreaksLines) → ofLog (logOf xs) = .ok (xs.map fun x => ofEvent x.2)) ∧
      ((∃ x ∈ xs, x.2.BreaksLines) → ofLog (logOf xs) = Record.fail .jsonInvalid) := by
  induction xs with
  | nil => exact ⟨fun _ => rfl, nofun⟩
  | cons x xs ih =>
    obtain ⟨hx, hxs⟩ := List.forall_mem_cons.mp h
    obtain ⟨whole, broken⟩ := ih hxs
    constructor
    · intro hw
      obtain ⟨hwx, hwxs⟩ := List.forall_mem_cons.mp hw
      rw [ofLog_cons hx hwx, whole hwxs]
      rfl
    · intro hbroken
      by_cases hbx : x.2.BreaksLines
      · exact ofLog_broken hx hbx xs
      · obtain ⟨y, hy, hby⟩ := hbroken
        have htail : y ∈ xs := (List.mem_cons.mp hy).resolve_left fun e => hbx (e ▸ hby)
        rw [ofLog_cons hx hbx, broken ⟨y, htail, hby⟩]
        rfl

theorem carriageReturn_not_mem_logOf {xs : List (Text × Event)} (h : ∀ x ∈ xs, Fit x) :
    '\r' ∉ logOf xs := by
  intro hr
  obtain ⟨x, hx, hr⟩ := List.mem_flatMap.mp hr
  simp only [toLog, List.flatMap_cons, List.flatMap_nil, List.append_nil, List.mem_append,
    List.mem_singleton] at hr
  have hline := hr.resolve_right (by decide)
  exact absurd ((mem_toLine_iff (h x hx).countable x.1 rfl).mp hline).1 (by decide)

end LoggedEvent

/-! ## A file that grows -/

namespace Folder

variable {f : Folder} {path : Text}

def leadsTo (f : Folder) (path : Text) (file : Text × List Nat) : Bool :=
  f.parts file.1 == f.parts path

theorem entry_eq_file_iff {bytes : List Nat} :
    f.entry path = .file bytes ↔ ∃ name, f.files.find? (f.leadsTo path) = some (name, bytes) := by
  have hleads : f.leadsTo path = fun file => f.parts file.1 == f.parts path := rfl
  rw [entry, hleads]
  cases f.files.find? fun file => f.parts file.1 == f.parts path with
  | none =>
    dsimp only
    split <;> simp
  | some file => simp [Prod.ext_iff]

/-- A text added to a file that is not there is all of the file. -/
theorem entry_append_missing (h : f.entry path = .missing) (t : Text) :
    (f.append path t).entry path = .file (Utf8.encode t) := by
  have hnone : f.files.find? (f.leadsTo path) = none := by
    rw [Option.eq_none_iff_forall_ne_some]
    intro file hfile
    have hentry := entry_eq_file_iff.mpr ⟨file.1, hfile⟩
    rw [h] at hentry
    cases hentry
  have happend : f.append path t = { f with files := f.files ++ [(path, Utf8.encode t)] } := by
    rw [append, h]
  refine entry_eq_file_iff.mpr ⟨path, ?_⟩
  rw [happend]
  change (f.files ++ [(path, Utf8.encode t)]).find? (f.leadsTo path) = _
  rw [List.find?_append, hnone, Option.none_or,
    List.find?_cons_of_pos (by rw [leadsTo]; exact beq_self_eq_true _)]

/-- A text added to a file stands at its end. -/
theorem entry_append_file {bytes : List Nat} (h : f.entry path = .file bytes) (t : Text) :
    (f.append path t).entry path = .file (bytes ++ Utf8.encode t) := by
  obtain ⟨name, hfile⟩ := entry_eq_file_iff.mp h
  let longer : Text × List Nat → Text × List Nat := fun file =>
    if f.leadsTo path file then (file.1, file.2 ++ Utf8.encode t) else file
  have happend : f.append path t = { f with files := f.files.map longer } := by
    rw [append, h]
    rfl
  have hsame : f.leadsTo path ∘ longer = f.leadsTo path := by
    funext file
    simp only [Function.comp_apply, longer]
    split <;> rfl
  refine entry_eq_file_iff.mpr ⟨name, ?_⟩
  rw [happend]
  change (f.files.map longer).find? (f.leadsTo path) = _
  rw [List.find?_map, hsame, hfile, Option.map_some]
  exact congrArg some (if_pos (List.find?_some hfile))

end Folder

/-! ## Runs -/

theorem Recorder.events_tell (r : Recorder) (t : Telling) :
    (r.tell t).events = r.events ∨
      ∃ c, (r.tell t).events = r.events ++ [⟨r.sessionId, r.events.length + 1, c⟩] := by
  cases t with
  | bind | typeQuery => exact .inl rfl
  | setQuery | display | reveal | decorate | accept | close => exact .inr ⟨_, rfl⟩

namespace Scribe

open LoggedEvent

/-- Whatever a recorder is told, it writes down one event or none. -/
theorem tell_eq (s : Scribe) (stamp : Text) (t : Telling) :
    ((s.recorder.tell t).events = s.recorder.events ∧
      s.tell stamp t = { s with recorder := s.recorder.tell t }) ∨
    ∃ e : Event, 1 ≤ e.seq ∧ (s.recorder.tell t).events = s.recorder.events ++ [e] ∧
      s.tell stamp t = { s with
        recorder := s.recorder.tell t,
        folder := s.folder.append s.path (toLog stamp [e]) } := by
  rcases s.recorder.events_tell t with h | ⟨c, h⟩
  · refine .inl ⟨h, ?_⟩
    rw [tell, h, List.drop_length]
    rfl
  · refine .inr ⟨_, Nat.le_add_left 1 _, h, ?_⟩
    rw [tell, h, List.drop_left]
    rfl

/-- The file in which the lines of some events were written. -/
def fileOf : List (Text × Event) → Entry
  | [] => .missing
  | xs => .file (Utf8.encode (logOf xs))

theorem entry_append {f : Folder} {path : Text} {xs : List (Text × Event)}
    (h : f.entry path = fileOf xs) (x : Text × Event) :
    (f.append path (toLog x.1 [x.2])).entry path = fileOf (xs ++ [x]) := by
  cases xs with
  | nil =>
    rw [Folder.entry_append_missing h]
    simp [fileOf, logOf]
  | cons y ys =>
    rw [Folder.entry_append_file h, Utf8.encode, Utf8.encode, ← List.flatMap_append]
    simp [fileOf, logOf, Utf8.encode]

/-- The events recorded are the ones written down, with these time stamps. -/
structure Holds (s : Scribe) (xs : List (Text × Event)) : Prop where
  recorded : s.recorder.events = xs.map (·.2)
  written : s.folder.entry s.path = fileOf xs
  stamped : ∀ x ∈ xs, Record.Timestamp.readable x.1 = true
  numbered : ∀ x ∈ xs, 1 ≤ x.2.seq

theorem holds_tell {s : Scribe} {xs : List (Text × Event)} (h : s.Holds xs) {stamp : Text}
    (hs : Record.Timestamp.readable stamp = true) (t : Telling) :
    ∃ ys, (s.tell stamp t).Holds ys := by
  rcases s.tell_eq stamp t with ⟨hevents, htell⟩ | ⟨e, hseq, hevents, htell⟩
  · rw [htell]
    exact ⟨xs, hevents.trans h.recorded, h.written, h.stamped, h.numbered⟩
  · rw [htell]
    refine ⟨xs ++ [(stamp, e)], ?_, entry_append h.written (stamp, e), ?_, ?_⟩
    · rw [hevents, h.recorded, List.map_append]
      rfl
    · exact List.forall_mem_append.mpr ⟨h.stamped, List.forall_mem_singleton.mpr hs⟩
    · exact List.forall_mem_append.mpr ⟨h.numbered, List.forall_mem_singleton.mpr hseq⟩

theorem holds_run {s : Scribe} {xs : List (Text × Event)} (h : s.Holds xs)
    {tellings : List (Text × Telling)}
    (hs : ∀ x ∈ tellings, Record.Timestamp.readable x.1 = true) :
    ∃ ys, (s.run tellings).Holds ys := by
  induction tellings generalizing s xs with
  | nil => exact ⟨xs, h⟩
  | cons x tellings ih =>
    obtain ⟨hx, hrest⟩ := List.forall_mem_cons.mp hs
    obtain ⟨ys, hys⟩ := holds_tell h hx x.2
    exact ih hys hrest

theorem Holds.fit {s : Scribe} {xs : List (Text × Event)} (h : s.Holds xs)
    (hc : ∀ e ∈ s.recorder.events, e.Countable) : ∀ x ∈ xs, Fit x := fun x hx =>
  ⟨h.stamped x hx, hc _ (h.recorded ▸ List.mem_map_of_mem hx), h.numbered x hx⟩

theorem Holds.readBack_eq {s : Scribe} {xs : List (Text × Event)} (h : s.Holds xs)
    (hxs : ∀ x ∈ xs, Fit x) : s.readBack = (ofLog (logOf xs)).mapError .invalid := by
  rw [readBack, Folder.events, h.written]
  cases xs with
  | nil => rfl
  | cons x xs =>
    have htext : Entry.text (Utf8.encode (logOf (x :: xs))) = .ok (logOf (x :: xs)) := by
      rw [Entry.text, Utf8.decode_encode]
      exact congrArg Except.ok (unifyLineEnds_of_not_mem (carriageReturn_not_mem_logOf hxs))
    simp only [fileOf, htext]

theorem readBack_run {s : Scribe} (hnew : s.recorder.events = [])
    (hfresh : s.folder.entry s.path = .missing) {tellings : List (Text × Telling)}
    (hs : ∀ x ∈ tellings, Record.Timestamp.readable x.1 = true)
    (hc : ∀ e ∈ (s.run tellings).recorder.events, e.Countable) :
    ((∀ e ∈ (s.run tellings).recorder.events, ¬e.BreaksLines) →
        (s.run tellings).readBack = .ok ((s.run tellings).recorder.events.map ofEvent)) ∧
      ((∃ e ∈ (s.run tellings).recorder.events, e.BreaksLines) →
        (s.run tellings).readBack = .error (.invalid [⟨[], .jsonInvalid⟩])) := by
  have hstart : s.Holds [] := ⟨hnew, hfresh, nofun, nofun⟩
  obtain ⟨xs, h⟩ := holds_run hstart hs
  obtain ⟨whole, broken⟩ := ofLog_logOf (h.fit hc)
  rw [h.readBack_eq (h.fit hc), h.recorded]
  constructor
  · intro hw
    rw [whole fun x hx => hw _ (List.mem_map_of_mem hx), List.map_map]
    rfl
  · rintro ⟨e, he, hbreaks⟩
    obtain ⟨x, hx, rfl⟩ := List.mem_map.mp he
    rw [broken ⟨x, hx, hbreaks⟩]
    rfl

/-- **A log is read back.** Whatever a new recorder is told while it writes to a file that is not
there yet, the file is read back as the events recorded, one by one and in order, if and only if no
text of an event has a line boundary beyond ASCII; otherwise nothing of the file can be read. That
the numbers in the events have no more digits than can be read, and that the time stamps can be
read, is all that is asked for. -/
theorem readBack_iff {s : Scribe} (hnew : s.recorder.events = [])
    (hfresh : s.folder.entry s.path = .missing) {tellings : List (Text × Telling)}
    (hs : ∀ x ∈ tellings, Record.Timestamp.readable x.1 = true)
    (hc : ∀ e ∈ (s.run tellings).recorder.events, e.Countable) :
    let s' := s.run tellings
    (s'.readBack = .ok (s'.recorder.events.map ofEvent) ↔
      ∀ e ∈ s'.recorder.events, ¬e.BreaksLines) ∧
    (s'.readBack ≠ .ok (s'.recorder.events.map ofEvent) →
      s'.readBack = .error (.invalid [⟨[], .jsonInvalid⟩])) := by
  intro s'
  obtain ⟨whole, broken⟩ := readBack_run hnew hfresh hs hc
  by_cases h : ∃ e ∈ s'.recorder.events, e.BreaksLines
  · have hfault : s'.readBack = .error (.invalid [⟨[], .jsonInvalid⟩]) := broken h
    refine ⟨⟨fun hok => ?_, fun hno => ?_⟩, fun _ => hfault⟩
    · rw [hfault] at hok
      cases hok
    · obtain ⟨e, he, hbreaks⟩ := h
      exact absurd hbreaks (hno e he)
  · have hno : ∀ e ∈ s'.recorder.events, ¬e.BreaksLines := fun e he hbreaks => h ⟨e, he, hbreaks⟩
    exact ⟨⟨fun _ => hno, whole⟩, fun hne => absurd (whole hno) hne⟩

/-- A new recorder that writes to a new file. -/
def sample : Scribe where
  recorder := { sessionId := "qo_0042".toList }
  folder := { place := "/work".toList }
  path := "nested/events.jsonl".toList

/-- A query with line ends, an empty list of rows and the closing, a second each. -/
def sampleTellings : List (Text × Telling) :=
  [("2024-05-01T10:00:00Z".toList, .bind),
    ("2024-05-01T10:00:01Z".toList, .setQuery "#f é\r\n".toList),
    ("2024-05-01T10:00:02Z".toList, .display .nil [] none),
    ("2024-05-01T10:00:03Z".toList, .close)]

/-- The three events of the sample are read back. -/
theorem readBack_iff_sample :
    let s := sample.run sampleTellings
    s.readBack = .ok (s.recorder.events.map ofEvent) ∧
      s.recorder.events.map (·.call) =
        [.setQuery "#f é\r\n".toList, .show [] none, .close] := by
  intro s
  have hstamps : ∀ x ∈ sampleTellings, Record.Timestamp.readable x.1 = true := by decide +kernel
  have hcount : ∀ e ∈ s.recorder.events, e.Countable := by decide +kernel
  obtain ⟨reads, -⟩ := readBack_iff rfl (by decide +kernel) hstamps hcount
  exact ⟨reads.mpr (by decide +kernel), by decide +kernel⟩

/-- A query with a line separator in it is recorded, but the log cannot be read. -/
theorem readBack_astray :
    let s := sample.run [("2024-05-01T10:00:00Z".toList, .setQuery "a\u2028b".toList)]
    s.recorder.events = [⟨"qo_0042".toList, 1, .setQuery "a\u2028b".toList⟩] ∧
      s.readBack = .error (.invalid [⟨[], .jsonInvalid⟩]) ∧
      s.readBack ≠ .ok (s.recorder.events.map ofEvent) := by
  intro s
  have hfault : s.readBack = .error (.invalid [⟨[], .jsonInvalid⟩]) :=
    (readBack_run (by decide +kernel) (by decide +kernel) (by decide +kernel)
      (by decide +kernel)).2 (by decide +kernel)
  refine ⟨by decide +kernel, hfault, fun hok => ?_⟩
  rw [hfault] at hok
  cases hok

end Scribe

end Outline
