import Outline.Proofs.Source.Outcome
import Outline.Proofs.Text.LineBreak

/-!
# Where symbols start

A lexer counts the bytes of what it has passed on a line (`Lexer.Counts`), and so the column of a
statement is the size in bytes of what stands in front of it on its line
(`exists_statement_of_read`). A document counts characters. The two agree if what stands in front is
ASCII, and then the range of a symbol starts with the statement that declares it; else the range
starts further right, and may start behind the end of its line (`start_of_symbols`,
`start_behind_line`).
-/
namespace Outline.Source

/-! ## Bytes -/

theorem utf8Size_append (s t : Text) :
    Text.utf8Size (s ++ t) = Text.utf8Size s + Text.utf8Size t := by
  induction s with
  | nil => exact (Nat.zero_add _).symm
  | cons c s ih => rw [List.cons_append, Text.utf8Size, Text.utf8Size, ih, Nat.add_assoc]

theorem utf8Width_eq_one {c : Char} (h : c.toNat < 128) : Text.utf8Width c = 1 := if_pos h

theorem utf8Size_of_ascii {t : Text} (h : ∀ c ∈ t, c.toNat < 128) :
    Text.utf8Size t = t.length := by
  induction t with
  | nil => rfl
  | cons c t ih =>
    obtain ⟨hc, ht⟩ := List.forall_mem_cons.mp h
    rw [Text.utf8Size, utf8Width_eq_one hc, ih ht, List.length_cons, Nat.add_comm]

/-! ## Places in a text -/

/-- A text goes on with `rest` on one of its lines, behind `front`. -/
structure Stands (whole : Text) (line : Nat) (front rest : Text) : Prop where
  sameLine : '\n' ∉ front
  exists_above : ∃ above : List Text, above.length = line ∧ (∀ l ∈ above, '\n' ∉ l) ∧
    whole = above.flatMap (· ++ ['\n']) ++ (front ++ rest)

namespace Stands

variable {whole front rest : Text} {line : Nat}

theorem head (t : Text) : Stands t 0 [] t := ⟨List.not_mem_nil, [], rfl, nofun, rfl⟩

theorem lineFeed (h : Stands whole line front ('\n' :: rest)) :
    Stands whole (line + 1) [] rest := by
  obtain ⟨hfront, above, hlength, habove, hwhole⟩ := h
  refine ⟨List.not_mem_nil, above ++ [front], by rw [List.length_append, hlength]; rfl, ?_, ?_⟩
  · exact List.forall_mem_append.mpr ⟨habove, List.forall_mem_singleton.mpr hfront⟩
  · simp [hwhole]

theorem char {c : Char} (h : Stands whole line front (c :: rest)) (hc : c ≠ '\n') :
    Stands whole line (front ++ [c]) rest := by
  obtain ⟨hfront, above, hlength, habove, hwhole⟩ := h
  refine ⟨?_, above, hlength, habove, by rw [hwhole, List.append_assoc]; rfl⟩
  rw [List.mem_append, List.mem_singleton, not_or]
  exact ⟨hfront, hc.symm⟩

/-- A line feed that is added at the end is no part of what comes before it. -/
theorem dropLast {c : Char} (h : Stands (whole ++ ['\n']) line front (c :: rest)) (hc : c ≠ '\n') :
    ∃ rest', rest = rest' ++ ['\n'] ∧ Stands whole line front (c :: rest') := by
  obtain ⟨hfront, above, hlength, habove, hwhole⟩ := h
  rcases List.eq_nil_or_concat rest with rfl | ⟨rest', last, rfl⟩
  · rw [← List.append_assoc] at hwhole
    exact absurd (List.append_inj' hwhole rfl).2 (by simpa using hc.symm)
  · have hsplit : above.flatMap (· ++ ['\n']) ++ (front ++ c :: rest'.concat last) =
        above.flatMap (· ++ ['\n']) ++ (front ++ c :: rest') ++ [last] := by simp
    rw [hsplit] at hwhole
    obtain ⟨hinit, hlast⟩ := List.append_inj' hwhole rfl
    cases hlast
    exact ⟨rest', List.concat_eq_append, hfront, above, hlength, habove, hinit⟩

end Stands

/-! ## Columns of words -/

namespace Lexer

/-- A lexer that has passed lines of a text and the front of one more knows where that is; its
column counts the bytes of that front. -/
def Counts (l : Lexer) (t : Text) : Prop :=
  ∃ front, Stands t l.line front l.rest ∧ l.column = Text.utf8Size front

variable {l l' : Lexer} {t : Text}

theorem Counts.past (h : l.Counts t) {c : Char} {rest : Text} (hc : l.rest = c :: rest) :
    (l.past c).Counts t := by
  obtain ⟨front, hstands, hcolumn⟩ := h
  rw [hc] at hstands
  unfold Lexer.past
  rw [hc]
  split
  · rename_i heq
    subst heq
    exact ⟨[], hstands.lineFeed, rfl⟩
  · rename_i hne
    exact ⟨front ++ [c], hstands.char hne, by rw [utf8Size_append, hcolumn]; rfl⟩

theorem Counts.foldl_past (h : l.Counts t) {cs : Text} (hcs : cs <+: l.rest) :
    (cs.foldl Lexer.past l).Counts t := by
  induction cs generalizing l with
  | nil => exact h
  | cons c cs ih =>
    obtain ⟨rest, hrest⟩ := hcs
    refine ih (h.past hrest.symm) ⟨rest, ?_⟩
    rw [show (l.past c).rest = l.rest.tail from rest_foldl_past [c] l ▸ List.drop_one, ← hrest]
    rfl

theorem Counts.skip (h : l.Counts t) (n : Nat) : (l.skip n).Counts t :=
  h.foldl_past (List.take_prefix n l.rest)

theorem Counts.on (h : l.Counts t) (hl : l'.On l) : l'.Counts t := by
  unfold Counts
  rw [hl.rest, hl.line, hl.column]
  exact h

theorem ne_of_startsWord {c : Char} (h : startsWord c = true) : c ≠ '\n' := by
  rintro rfl
  exact absurd h (by decide)

theorem toList_of_ofName {id : Text} {m : String} (h : Lexeme.ofName id = .mark m) :
    m.toList = id := by
  unfold Lexeme.ofName at h
  split at h
  · rename_i k hk
    cases h
    have hfound := List.find?_some hk
    exact eq_of_beq hfound
  · cases h

/-- A mark is cut where it stands in the text. -/
theorem prefix_of_mark {w : Word} (h : l.word = some (w, l')) {m : String}
    (hm : w.lexeme = .mark m) : m.toList <+: l.rest := by
  obtain ⟨make, after, hfront, rfl, -⟩ := word_eq_some h
  cases hfront with
  | string => cases hm
  | name =>
    rw [toList_of_ofName hm]
    exact List.take_prefix ..
  | number => cases hm
  | operator _ hop =>
    cases hm
    exact hop

end Lexer

/-! ## Columns of statements -/

def Heading.Begins : Heading → Text → Prop
  | classKeyword, t => "class".toList <+: t
  | functionKeyword, t => "async".toList <+: t ∨ "def".toList <+: t
  | expression, t => t.head?.any Lexer.startsWord = true

/-- A text that is a module's but for a line feed at its end goes on where the module does. -/
theorem exists_statement {t front rest : Text} {line : Nat} (ht : '\r' ∉ t)
    (h : Stands (unifyModule t) line front rest) (hc : rest.head?.any Lexer.startsWord = true) :
    ∃ statement, Stands t line front statement ∧
      (rest = statement ∨ rest = statement ++ ['\n']) ∧ statement.head? = rest.head? := by
  unfold unifyModule at h
  rw [Text.unifyLineEnds_of_not_mem ht] at h
  dsimp only at h
  split at h
  · exact ⟨rest, h, .inl rfl, rfl⟩
  · cases rest with
    | nil => cases hc
    | cons c rest =>
      obtain ⟨rest', rfl, hstands⟩ := h.dropLast (Lexer.ne_of_startsWord hc)
      exact ⟨c :: rest', hstands, .inr rfl, rfl⟩

/-- What has no line feed ends before one that is added at the end. -/
theorem prefix_of_prefix_lineFeed {keyword rest statement : Text} (hk : '\n' ∉ keyword)
    (hrest : rest = statement ∨ rest = statement ++ ['\n']) (h : keyword <+: rest) :
    keyword <+: statement := by
  rcases hrest with rfl | rfl
  · exact h
  · refine (List.prefix_concat_iff.mp h).resolve_left fun heq => hk ?_
    rw [heq]
    exact List.mem_append_right _ (List.mem_singleton.mpr rfl)

/-- The column of a statement is the size of what stands in front of it on its line. -/
theorem exists_statement_of_read {t : Text} {b : Block} (ht : '\r' ∉ t)
    (h : Block.read t = .ok b) :
    ∀ p ∈ b.declarations, ∃ front statement, Stands t p.extent.line front statement ∧
      p.extent.column = Text.utf8Size front ∧ p.heading.Begins statement ∧
      statement.head?.any Lexer.startsWord = true := by
  obtain ⟨words, hlex, hwords⟩ := exists_word_of_read h
  intro p hp
  obtain ⟨w, hw, hfits, hbegins⟩ := hwords p hp
  obtain ⟨l₁, l₂, ⟨front, hstands, hcolumn⟩, hstarts, hword⟩ :=
    (Lexer.runs_run hlex).exists_word (P := (·.Counts (unifyModule t)))
      (fun n h => Lexer.Counts.skip h n) (fun hon h => Lexer.Counts.on h hon)
      ⟨[], .head _, rfl⟩ w hw hbegins.visible
  have hplace := (Lexer.cuts_word hword).starts
  have hline : p.extent.line = l₁.line := hbegins.line.trans (congrArg Position.line hplace)
  have hcol : p.extent.column = l₁.column :=
    hbegins.column.trans (congrArg Position.character hplace)
  obtain ⟨statement, hstatement, hrest, hhead⟩ := exists_statement ht hstands hstarts
  have hstarts' : statement.head?.any Lexer.startsWord = true := by rwa [hhead]
  have hkeyword : ∀ {m : String}, '\n' ∉ m.toList → w.lexeme = .mark m → m.toList <+: statement :=
    fun hm hlexeme => prefix_of_prefix_lineFeed hm hrest (Lexer.prefix_of_mark hword hlexeme)
  refine ⟨front, statement, hline ▸ hstatement, hcol.trans hcolumn, ?_, hstarts'⟩
  cases hheading : p.heading with
  | classKeyword =>
    rw [hheading] at hfits
    exact hkeyword (by decide) hfits
  | functionKeyword =>
    rw [hheading] at hfits
    exact hfits.imp (hkeyword (by decide)) (hkeyword (by decide))
  | expression => exact hstarts'

/-! ## Ranges of symbols -/

/-- The line of a document on which something stands. -/
theorem Stands.rawLine {d : Document} {line : Nat} {front rest : Text}
    (h : Stands d.text line front rest) :
    d.rawLines[line]? = some (front ++ rest.takeWhile (· ≠ '\n')) := by
  obtain ⟨hfront, above, rfl, habove, hwhole⟩ := h
  have hall : ∀ c ∈ front, decide (c ≠ '\n') = true := by
    intro c hc
    rw [decide_eq_true_eq]
    rintro rfl
    exact hfront hc
  rw [Document.rawLines, hwhole, Text.splitAtChar_flatMap habove,
    List.getElem?_append_right (Nat.le_refl _), Nat.sub_self, ← List.head?_eq_getElem?,
    Text.head?_splitAtChar, List.takeWhile_append_of_pos hall]

/-- A statement is not empty up to the end of its first line. -/
theorem head?_takeWhile_of_startsWord {statement : Text}
    (h : statement.head?.any Lexer.startsWord = true) :
    (statement.takeWhile (· ≠ '\n')).head? = statement.head? := by
  cases statement with
  | nil => cases h
  | cons c rest =>
    have hc := Lexer.ne_of_startsWord h
    rw [List.takeWhile_cons_of_pos (by simpa using hc)]
    rfl

/-- Without carriage returns, the text of a line is all of it. -/
theorem dropReturn_rawLine {d : Document} (hd : '\r' ∉ d.text) {n : Nat} {raw : Text}
    (h : d.rawLines[n]? = some raw) : Document.dropReturn raw = raw := by
  obtain ⟨before, after, htext, -⟩ := Document.exists_around_line h
  refine Document.dropReturn_of_not_mem fun hr => hd ?_
  rw [htext]
  exact List.mem_append_right _ (List.mem_append_left _ hr)

/-- A range is placed on a statement: it does not end before it starts, starts on its line, and its
text begins with the first character of the statement. -/
structure Placed (d : Document) (r : Range) (text statement : Text) : Prop where
  ordered : r.start.le r.stop = true
  onLine : r.start.character ≤ text.length
  begins : (d.textIn r).head? = statement.head?

theorem rawLine_of_line {d : Document} (hd : '\r' ∉ d.text) {n : Nat} {line : Text}
    (h : d.lines[n]? = some line) : d.rawLines[n]? = some line := by
  rw [Document.lines, List.getElem?_map, Option.map_eq_some_iff] at h
  obtain ⟨raw, hraw, rfl⟩ := h
  rw [hraw, dropReturn_rawLine hd hraw]

/-- The range of a statement is placed on it exactly if its column, taken as a number of characters,
is where that character stands on the line. -/
theorem placed_iff {d : Document} (hd : '\r' ∉ d.text) {x : Extent} {r : Range}
    (hr : x.range d = .ok r) (hx : x.line ≤ x.lastLine) {text statement : Text}
    (hline : d.rawLines[x.line]? = some text) (hs : statement.head?.any Lexer.startsWord = true) :
    Placed d r text statement ↔ text[r.start.character]? = statement.head? := by
  obtain ⟨last, hlast, rfl⟩ := Extent.range_eq_ok hr
  have hraw := rawLine_of_line hd hlast
  have hwhole := dropReturn_rawLine hd hline
  have hinside : x.column < text.length →
      (d.textIn ⟨⟨x.line, x.column⟩, ⟨x.lastLine, last.length⟩⟩).head? = text[x.column]? := by
    intro hlt
    rw [← hwhole] at hlt
    have hend := Document.offsetAt_lt_end hline hraw hx hlt
    rw [dropReturn_rawLine hd hraw] at hend
    exact Document.head?_textIn_of_lt hline hlt hend
  constructor
  · rintro ⟨-, honLine, hbegins⟩
    rcases Nat.lt_or_eq_of_le honLine with hlt | heq
    · rw [← hinside hlt, hbegins]
    · -- behind the line stands a line feed or nothing, and no statement begins with either
      have hcolumn : x.column = text.length := heq
      have hend := Document.head?_textIn_length hline hwhole ⟨x.lastLine, last.length⟩
      rw [← hcolumn, hbegins] at hend
      cases statement with
      | nil => cases hs
      | cons c rest => exact absurd (eq_of_beq hend) (Lexer.ne_of_startsWord hs)
  · intro hget
    have hlt : x.column < text.length := by
      rw [← Nat.not_le, ← List.getElem?_eq_none_iff]
      intro hnone
      have hnil : statement.head? = none := hget.symm.trans hnone
      rw [hnil] at hs
      cases hs
    refine ⟨Position.le_iff.mpr ?_, Nat.le_of_lt hlt, (hinside hlt).trans hget⟩
    rcases Nat.lt_or_eq_of_le hx with hlater | hsame
    · exact .inl hlater
    · rw [hsame, hraw] at hline
      cases hline
      exact .inr ⟨hsame, Nat.le_of_lt hlt⟩

/-- **Where symbols start.** In a module without carriage returns every symbol shows a statement
that declares its name, and starts on the line of that statement, as many characters from the left
as there are bytes in front of the statement. Its range is placed on the statement if all that
stands in front is ASCII, and in general exactly if the character that stands there is the first one
of the statement too. -/
theorem start_of_symbols (d : Document) (hd : '\r' ∉ d.text) {F : SymbolForest}
    (h : symbols d = .ok F) :
    ∃ b, Block.read d.text = .ok b ∧ ∀ s ∈ F.preorder, ∃ p ∈ b.declarations, p.Shows d s ∧
      ∃ text front statement, d.lines[s.range.start.line]? = some text ∧
        Stands d.text s.range.start.line front statement ∧
        text = front ++ statement.takeWhile (· ≠ '\n') ∧ p.heading.Begins statement ∧
        s.range.start.character = Text.utf8Size front ∧
        (Placed d s.range text statement ↔ text[s.range.start.character]? = statement.head?) ∧
        ((∀ c ∈ front, c.toNat < 128) → Placed d s.range text statement) := by
  unfold symbols at h
  split at h
  · cases h
  rename_i b hread
  refine ⟨b, hread, fun s hs => ?_⟩
  obtain ⟨p, hp, hshows⟩ := exists_declaration h s hs
  obtain ⟨front, statement, hstands, hcolumn, hbegins, hhead⟩ :=
    exists_statement_of_read hd hread p hp
  have hline := hstands.rawLine
  have hx := line_le_of_read hread p hp
  have hplaced := placed_iff hd hshows.range hx hline hhead
  obtain ⟨last, -, hrange⟩ := Extent.range_eq_ok hshows.range
  have hstart : s.range.start = ⟨p.extent.line, p.extent.column⟩ := by rw [hrange]
  refine ⟨p, hp, hshows, _, front, statement, ?_, ?_, rfl, hbegins, ?_, hplaced, fun hascii => ?_⟩
  · rw [hstart, Document.lines_getElem? hline, dropReturn_rawLine hd hline]
  · rwa [hstart]
  · rw [hstart, hcolumn]
  · rw [hplaced, hstart, hcolumn, utf8Size_of_ascii hascii,
      List.getElem?_append_right (Nat.le_refl _), Nat.sub_self, ← List.head?_eq_getElem?]
    exact head?_takeWhile_of_startsWord hhead

/-- The method of the sample module is placed on the line that declares it. -/
theorem start_of_symbols_sample :
    '\r' ∉ Search.sampleDocument.text ∧ symbols Search.sampleDocument = .ok Search.sampleForest ∧
      ∃ statement, Placed Search.sampleDocument (.ofCoords 2 4 3 21) "    def m(self):".toList
        statement := by
  have hd : '\r' ∉ Search.sampleDocument.text := by decide +kernel
  have h : symbols Search.sampleDocument = .ok Search.sampleForest :=
    toOption_eq_some.mp (by decide +kernel)
  refine ⟨hd, h, ?_⟩
  obtain ⟨b, -, hstart⟩ := start_of_symbols Search.sampleDocument hd h
  obtain ⟨p, -, -, text, front, statement, hline, -, hfront, -, -, -, hplaced⟩ :=
    hstart ⟨"m".toList, .method, .ofCoords 2 4 3 21, some "(self)".toList, 0⟩ (by decide +kernel)
  have hmethod : Search.sampleDocument.lines[2]? = some "    def m(self):".toList := by
    decide +kernel
  obtain rfl : text = "    def m(self):".toList := Option.some.inj (hline.symm.trans hmethod)
  refine ⟨statement, hplaced fun c hc => ?_⟩
  have hascii : "    def m(self):".toList.all (·.toNat < 128) = true := by decide
  have hmem : c ∈ "    def m(self):".toList := hfront ▸ List.mem_append_left _ hc
  exact of_decide_eq_true (List.all_eq_true.mp hascii c hmem)

/-- Eight characters of two bytes each in front of an assignment: its symbol starts eight characters
too far to the right, behind the end of the line, and so ends before it starts. -/
theorem start_behind_line :
    let d : Document := { text := "\"éééééééé\"; x = 1".toList }
    let r := Range.ofCoords 0 20 0 17
    symbols d = .ok (.cons ⟨['x'], .variable, r, none, 0⟩ .nil .nil) ∧
      r.start.le r.stop = false ∧ (∀ line ∈ d.lines, line.length < r.start.character) ∧
      d.textIn r = [] := by
  exact ⟨toOption_eq_some.mp (by decide +kernel), by decide, by decide +kernel, by decide +kernel⟩

end Outline.Source
