import Mathlib.Data.Nat.Find
import RouteDoc.Proofs.TwinDisks
import RouteDoc.Proofs.WordSearch
import RouteDoc.Ui

/-!
Pointing an index page at a document. An entry is written out as its parts (`Entry`), and the first one of a page is
the one with the shortest text in front of it (`FirstEntry`). An update replaces that entry and nothing else; a page
without entries is refused.

The new entry is again the first of its page: what starts a line further up opened an entry before, since there was a
quote further down to close it (`FirstEntry.place_kept`). It need not end where it was written to end: a quote in the
URL is marked by a backslash, but the quoted text of an entry stops at any quote. So a second update finds the page as
it should be exactly if there is no quote in the URL, and otherwise leaves the rest of the escaped URL behind the entry
(`updateIndex_twice`).
-/

namespace RouteDoc.Ui

open RouteDoc.Text
open RouteDoc.Go (takeWhile_stop cut?_eq_some)

/-! ## Entries -/

/-- An entry of a page: `url:` and a text in quotes, with gaps around them and possibly a comma at the end. -/
structure Entry where
  indent : List Char
  gap : List Char
  quoted : List Char
  tail : List Char
  comma : Bool
  gap_of_mem_indent : ∀ c ∈ indent, isGap c = true
  gap_of_mem_gap : ∀ c ∈ gap, isGap c = true
  gap_of_mem_tail : ∀ c ∈ tail, isGap c = true
  quote_not_mem : '"' ∉ quoted

namespace Entry

/-- From the indentation to the quote that opens. -/
def opening (entry : Entry) : List Char :=
  entry.indent ++ (['u', 'r', 'l', ':'] ++ (entry.gap ++ ['"']))

/-- Behind the quote that closes. -/
def ending (entry : Entry) : List Char :=
  entry.tail ++ if entry.comma then [','] else []

def text (entry : Entry) : List Char :=
  entry.opening ++ (entry.quoted ++ '"' :: entry.ending)

/-- The entry ends in front of `rest`: unless it has its comma, neither gap nor comma goes on there. -/
def Ends (entry : Entry) (rest : List Char) : Prop :=
  entry.comma = false → ∀ c, rest.head? = some c → isGap c = false ∧ c ≠ ','

end Entry

theorem dropComma_of_head {s : List Char} (h : ∀ c, s.head? = some c → c ≠ ',') : dropComma s = s := by
  unfold dropComma
  split
  · rename_i rest
    exact absurd rfl (h ',' rfl)
  · rfl

theorem dropComma_ending {entry : Entry} {rest : List Char} (hends : entry.Ends rest) :
    dropComma ((entry.ending ++ rest).dropWhile isGap) = rest := by
  rw [Entry.ending, List.append_assoc, List.dropWhile_append_of_pos entry.gap_of_mem_tail]
  cases hcomma : entry.comma with
  | true => simp [dropComma, isGap]
  | false =>
    have hhead := hends hcomma
    have hnone : rest.dropWhile isGap = rest := by
      cases rest with
      | nil => rfl
      | cons c rest => exact List.dropWhile_cons_of_neg (by simp [(hhead c rfl).1])
    simp only [Bool.false_eq_true, if_false, List.nil_append, hnone]
    exact dropComma_of_head fun c hc => (hhead c hc).2

/-- An entry with its comma, or without one in front of a text that does not go on with one. -/
theorem exists_ending (s : List Char) : ∃ tail comma, (∀ c ∈ tail, isGap c = true) ∧
    s = (tail ++ if comma = true then [','] else []) ++ dropComma (s.dropWhile isGap) ∧
      (comma = false → ∀ c, (dropComma (s.dropWhile isGap)).head? = some c → isGap c = false ∧ c ≠ ',') := by
  have htail : ∀ c ∈ s.takeWhile isGap, isGap c = true := fun c => List.mem_takeWhile_imp
  have hparts := List.takeWhile_append_dropWhile (p := isGap) (l := s)
  cases hdrop : s.dropWhile isGap with
  | nil =>
    rw [hdrop, List.append_nil] at hparts
    exact ⟨_, false, htail, by simp [hparts, dropComma], by simp [dropComma]⟩
  | cons c rest =>
    have hc : isGap c = false := by
      have := List.head?_dropWhile_not isGap s
      simpa [hdrop] using this
    by_cases hcomma : c = ','
    · subst hcomma
      rw [hdrop] at hparts
      exact ⟨_, true, htail, by simp [hparts, dropComma], nofun⟩
    · have hkept : dropComma (c :: rest) = c :: rest :=
        dropComma_of_head fun d hd => by rwa [← Option.some.inj hd]
      refine ⟨s.takeWhile isGap, false, htail, ?_, fun _ d hd => ?_⟩
      · rw [hkept, if_neg (by simp), List.append_nil, ← hdrop, hparts]
      · rw [hkept] at hd
        obtain rfl := Option.some.inj hd
        exact ⟨hc, hcomma⟩

theorem urlEntry?_text {before : Option Char} (hline : startsLine before = true) {entry : Entry} {rest : List Char}
    (hends : entry.Ends rest) : urlEntry? before (entry.text ++ rest) = some (entry.indent, rest) := by
  have htext : entry.text ++ rest = entry.indent ++ 'u' :: (['r', 'l', ':'] ++
      (entry.gap ++ '"' :: (entry.quoted ++ '"' :: (entry.ending ++ rest)))) := by
    simp [Entry.text, Entry.opening]
  have hafter : ∀ s, after? ['u', 'r', 'l', ':'] ('u' :: (['r', 'l', ':'] ++ s)) = some s :=
    after?_append ['u', 'r', 'l', ':']
  obtain ⟨hindent, hurl⟩ := takeWhile_stop (s := 'u' :: _) entry.gap_of_mem_indent (by simp [isGap])
  have hquote : ∀ s, (entry.gap ++ '"' :: s).dropWhile isGap = '"' :: s := fun s =>
    (takeWhile_stop entry.gap_of_mem_gap (by simp [isGap])).2
  unfold urlEntry?
  rw [if_pos hline, htext, hurl, hindent, hafter]
  simp only [hquote, cut?_append entry.quote_not_mem, Option.map_some, dropComma_ending hends]

theorem exists_entry_of_urlEntry? {before : Option Char} {s indent rest : List Char}
    (h : urlEntry? before s = some (indent, rest)) :
    startsLine before = true ∧ ∃ entry : Entry, entry.indent = indent ∧ s = entry.text ++ rest ∧ entry.Ends rest := by
  unfold urlEntry? at h
  split at h
  · rename_i hline
    refine ⟨hline, ?_⟩
    split at h
    · rename_i behind hbehind
      split at h
      · rename_i quoted hquoted
        obtain ⟨⟨inner, closed⟩, hcut, hfound⟩ := Option.map_eq_some_iff.mp h
        obtain ⟨rfl, rfl⟩ := Prod.mk.inj hfound
        obtain ⟨hinner, rfl⟩ := cut?_eq_some hcut
        obtain ⟨tail, comma, htail, hclosed, hends⟩ := exists_ending closed
        have hgap : behind = behind.takeWhile isGap ++ '"' :: (inner ++ '"' :: closed) := by
          rw [← hquoted, List.takeWhile_append_dropWhile]
        have hindent : s = s.takeWhile isGap ++ (['u', 'r', 'l', ':'] ++ behind) := by
          rw [← after?_eq_some_iff.mp hbehind, List.takeWhile_append_dropWhile]
        refine ⟨⟨s.takeWhile isGap, behind.takeWhile isGap, inner, tail, comma, fun c => List.mem_takeWhile_imp,
          fun c => List.mem_takeWhile_imp, htail, hinner⟩, rfl, ?_, hends⟩
        simp only [Entry.text, Entry.opening, Entry.ending, List.append_assoc, List.cons_append, List.nil_append]
        rw [List.append_assoc] at hclosed
        rw [← hclosed]
        simpa [← hgap] using hindent
      · cases h
    · cases h
  · cases h

/-- An entry starts wherever there is an opening with a quote behind it. -/
theorem exists_entry_of_opening (opened : Entry) {s : List Char} (hquote : '"' ∈ s) :
    ∃ (entry : Entry) (rest : List Char), opened.opening ++ s = entry.text ++ rest ∧ entry.Ends rest := by
  obtain ⟨inner, closed, rfl, hinner⟩ := List.eq_append_cons_of_mem hquote
  obtain ⟨tail, comma, htail, hclosed, hends⟩ := exists_ending closed
  refine ⟨⟨opened.indent, opened.gap, inner, tail, comma, opened.gap_of_mem_indent, opened.gap_of_mem_gap, htail,
    hinner⟩, dropComma (closed.dropWhile isGap), ?_, hends⟩
  simp only [Entry.text, Entry.opening, Entry.ending, List.append_assoc, List.cons_append, List.nil_append]
  rw [List.append_assoc] at hclosed
  rw [← hclosed]

/-! ## The first entry of a page -/

/-- An entry that starts a line of the page, between `front` and `rest`; `before` stands in front of the page. -/
structure EntryAt (before : Option Char) (page front : List Char) (entry : Entry) (rest : List Char) : Prop where
  page_eq : page = front ++ (entry.text ++ rest)
  line : startsLine (front.getLast?.or before) = true
  ends : entry.Ends rest

/-- The entry that no other one of the page starts before. -/
structure FirstEntry (before : Option Char) (page front : List Char) (entry : Entry) (rest : List Char) : Prop
    extends EntryAt before page front entry rest where
  first : ∀ {front' entry' rest'}, EntryAt before page front' entry' rest' → front.length ≤ front'.length

theorem entryAt_cons {before : Option Char} {c : Char} {page front rest : List Char} {entry : Entry} :
    EntryAt before (c :: page) (c :: front) entry rest ↔ EntryAt (some c) page front entry rest := by
  constructor
  · rintro ⟨hpage, hline, hends⟩
    rw [getLast?_cons_or] at hline
    exact ⟨(List.cons.inj hpage).2, hline, hends⟩
  · rintro ⟨rfl, hline, hends⟩
    rw [← getLast?_cons_or c front before] at hline
    exact ⟨rfl, hline, hends⟩

theorem urlEntry?_eq_none {before : Option Char} {page : List Char}
    (h : ∀ entry rest, ¬ EntryAt before page [] entry rest) : urlEntry? before page = none := by
  cases hread : urlEntry? before page with
  | none => rfl
  | some found =>
    obtain ⟨hline, entry, -, hpage, hends⟩ := exists_entry_of_urlEntry? hread
    exact absurd ⟨hpage, hline, hends⟩ (h entry found.2)

theorem EntryAt.exists_first {before : Option Char} {page front rest : List Char} {entry : Entry}
    (h : EntryAt before page front entry rest) :
    ∃ front' entry' rest', FirstEntry before page front' entry' rest' := by
  classical
  have hsome : ∃ n front' entry' rest', EntryAt before page front' entry' rest' ∧ front'.length = n :=
    ⟨front.length, front, entry, rest, h, rfl⟩
  obtain ⟨front', entry', rest', hat, hlength⟩ := Nat.find_spec hsome
  exact ⟨front', entry', rest', hat, fun hother => hlength ▸ Nat.find_min' hsome ⟨_, _, _, hother, rfl⟩⟩

/-- The first entry is replaced, and nothing else. -/
theorem FirstEntry.pointAt? {before : Option Char} {page front rest : List Char} {entry : Entry}
    (h : FirstEntry before page front entry rest) (url : List Char) :
    pointAt? url before page = some (front ++ (entry.indent ++ urlEntry url ++ rest)) := by
  induction front generalizing before page with
  | nil =>
    have hread : urlEntry? before page = some (entry.indent, rest) := by
      rw [h.page_eq]
      exact urlEntry?_text h.line h.ends
    unfold Ui.pointAt?
    simp only [hread, List.nil_append]
  | cons c front ih =>
    obtain ⟨page, rfl⟩ : ∃ page', page = c :: page' := ⟨_, h.page_eq⟩
    have hnone : urlEntry? before (c :: page) = none :=
      urlEntry?_eq_none fun entry' rest' hat => absurd (h.first hat) (by simp)
    have hfirst : FirstEntry (some c) page front entry rest :=
      ⟨entryAt_cons.mp h.toEntryAt, fun hother => by simpa using h.first (entryAt_cons.mpr hother)⟩
    rw [Ui.pointAt?]
    simp only [hnone, ih hfirst, Option.map_some, List.cons_append]

theorem pointAt?_eq_none {before : Option Char} {page : List Char} (url : List Char)
    (h : ∀ front entry rest, ¬ EntryAt before page front entry rest) : pointAt? url before page = none := by
  induction page generalizing before with
  | nil =>
    rw [pointAt?]
    simp only [urlEntry?_eq_none (h [])]
  | cons c page ih =>
    have hrest := ih fun front entry rest hat => h (c :: front) entry rest (entryAt_cons.mpr hat)
    rw [pointAt?]
    simp only [urlEntry?_eq_none (h []), hrest, Option.map_none]

/-! ## The entry that was written -/

theorem quote_mem_escape {url : List Char} : '"' ∈ escape url ↔ '"' ∈ url := by
  induction url with
  | nil => rfl
  | cons c url ih =>
    rw [escape]
    split <;> simp [ih]

theorem newline_not_mem_opening (entry : Entry) : '\n' ∉ entry.opening := by
  have hgap : ∀ {gap : List Char}, (∀ c ∈ gap, isGap c = true) → '\n' ∉ gap :=
    fun h hmem => absurd (h '\n' hmem) (by decide)
  simp [Entry.opening, hgap entry.gap_of_mem_indent, hgap entry.gap_of_mem_gap]

theorem quote_mem_text (entry : Entry) : '"' ∈ entry.text := by
  simp [Entry.text]

/-- No entry starts before the first one, whatever is written from there on: its opening would have stood on the page
before, and the first entry has the quote that closes it. -/
theorem FirstEntry.place_kept {before : Option Char} {page front rest : List Char} {entry : Entry}
    (h : FirstEntry before page front entry rest) {written front' rest' : List Char} {entry' : Entry}
    (hat : EntryAt before (front ++ written) front' entry' rest') : front.length ≤ front'.length := by
  by_contra hshort
  obtain ⟨mid, hmidne, hfront, htext⟩ := exists_between hat.page_eq.symm (Nat.lt_of_not_le hshort)
  -- The first entry starts a line, so the text between the two places has the end of a line.
  have hnewline : '\n' ∈ mid := by
    obtain ⟨init, c, rfl⟩ := (List.eq_nil_or_concat' mid).resolve_left hmidne
    have hline := h.line
    rw [hfront, ← List.append_assoc, List.getLast?_concat, Option.some_or] at hline
    have hc : c = '\n' := by simpa [startsLine] using hline
    simp [hc]
  -- An opening stays within its line.
  obtain ⟨more, hmore⟩ : ∃ more, mid = entry'.opening ++ more := by
    rw [Entry.text, List.append_assoc] at htext
    rcases List.append_eq_append_iff.mp htext with ⟨more, hmore, -⟩ | ⟨more, hmore, -⟩
    · exact ⟨more, hmore⟩
    · refine absurd ?_ (newline_not_mem_opening entry')
      rw [hmore]
      exact List.mem_append_left more hnewline
  have hquote : '"' ∈ more ++ (entry.text ++ rest) := by simp [quote_mem_text]
  obtain ⟨there, behind, hthere, hends⟩ := exists_entry_of_opening entry' hquote
  have hpage : page = front' ++ (there.text ++ behind) := by
    rw [← hthere, h.page_eq, hfront, hmore]
    simp only [List.append_assoc]
  exact hshort (h.first ⟨hpage, hat.line, hends⟩)

theorem dropComma_quote (s rest : List Char) : dropComma (s ++ '"' :: rest) = dropComma s ++ '"' :: rest := by
  cases s with
  | nil => rfl
  | cons c s =>
    by_cases hcomma : c = ','
    · subst hcomma
      rfl
    · rw [dropComma_of_head (s := c :: s) fun d hd => by rwa [← Option.some.inj hd]]
      exact dropComma_of_head fun d hd => by rwa [← Option.some.inj hd]

/-- An entry that was written is read as an entry with the same indentation; what it leaves behind is empty exactly
if there is no quote in the URL. -/
theorem exists_written_entry {indent : List Char} (hindent : ∀ c ∈ indent, isGap c = true) (url rest : List Char) :
    ∃ (entry : Entry) (left : List Char), entry.indent = indent ∧
      indent ++ urlEntry url ++ rest = entry.text ++ (left ++ rest) ∧ entry.Ends (left ++ rest) ∧
        (left = [] ↔ '"' ∉ url) := by
  have hspace : ∀ c ∈ [' '], isGap c = true := by simp [isGap]
  by_cases hquote : '"' ∈ url
  · obtain ⟨inner, more, hescape, hinner⟩ := List.eq_append_cons_of_mem (quote_mem_escape.mpr hquote)
    obtain ⟨tail, comma, htail, hclosed, hends⟩ := exists_ending (more ++ '"' :: (',' :: rest))
    -- The quote at the end of the written entry stays: neither gap nor comma reaches it.
    have hleft : dropComma ((more ++ '"' :: (',' :: rest)).dropWhile isGap) =
        (dropComma (more.dropWhile isGap) ++ ['"', ',']) ++ rest := by
      have hdrop : (more ++ '"' :: (',' :: rest)).dropWhile isGap = more.dropWhile isGap ++ '"' :: (',' :: rest) := by
        rw [List.dropWhile_append, List.dropWhile_cons_of_neg (by decide)]
        split
        · rename_i hempty
          rw [List.isEmpty_iff.mp hempty, List.nil_append]
        · rfl
      rw [hdrop, dropComma_quote]
      simp
    rw [hleft] at hclosed hends
    refine ⟨⟨indent, [' '], inner, tail, comma, hindent, hspace, htail, hinner⟩,
      dropComma (more.dropWhile isGap) ++ ['"', ','], rfl, ?_, hends, by simp [hquote]⟩
    simp only [Entry.text, Entry.opening, Entry.ending, urlEntry, hescape, List.append_assoc, List.cons_append,
      List.nil_append] at hclosed ⊢
    rw [hclosed]
  · have hinner : '"' ∉ escape url := fun hmem => hquote (quote_mem_escape.mp hmem)
    refine ⟨⟨indent, [' '], escape url, [], true, hindent, hspace, by simp, hinner⟩, [], rfl, ?_, nofun,
      by simp [hquote]⟩
    simp [Entry.text, Entry.opening, Entry.ending, urlEntry]

/-- The entry that was written in the place of the first is the first again. -/
theorem FirstEntry.written {page front rest : List Char} {entry : Entry}
    (h : FirstEntry none page front entry rest) (url : List Char) :
    ∃ (entry' : Entry) (left : List Char), entry'.indent = entry.indent ∧ (left = [] ↔ '"' ∉ url) ∧
      FirstEntry none (front ++ (entry.indent ++ urlEntry url ++ rest)) front entry' (left ++ rest) := by
  obtain ⟨entry', left, hindent, htext, hends, hleft⟩ := exists_written_entry entry.gap_of_mem_indent url rest
  exact ⟨entry', left, hindent, hleft, ⟨by rw [htext], h.line, hends⟩, h.place_kept⟩

/-! ## Updates -/

/-- What an update of the file makes of the disk: the file reads as `new`, and is written only if that is new. -/
structure Updated (disk : Disk) (index : Path) (old new : String) (disk' : Disk) (changed : Bool) : Prop where
  changed_iff : changed = true ↔ new ≠ old
  read : disk'.read index = .ok new
  kept : changed = false → disk' = disk
  written : changed = true → disk.write index new = .ok disk'

theorem isFile_of_read {disk : Disk} {index : Path} {page : String} (h : disk.read index = .ok page) :
    disk.isFile index = true := by
  unfold Disk.read at h
  unfold Disk.isFile
  split at h
  · rename_i hnode
    rw [hnode]
  · cases h
  · cases h

/-- An update replaces the first entry of the page. -/
theorem FirstEntry.updateIndex {disk : Disk} {index : Path} {page : String} (hread : disk.read index = .ok page)
    {front rest : List Char} {entry : Entry} (h : FirstEntry none page.toList front entry rest) (url : String)
    (session : Session) : ∃ disk' changed session',
      (updateIndex disk index url).run session = (.ok (disk', changed), session') ∧
        Updated disk index page (String.ofList (front ++ (entry.indent ++ urlEntry url.toList ++ rest))) disk'
          changed := by
  have hpoint := h.pointAt? url.toList
  generalize front ++ (entry.indent ++ urlEntry url.toList ++ rest) = updated at hpoint ⊢
  unfold Ui.updateIndex
  simp only [hread, hpoint]
  split
  · rename_i hsame
    have hpage : String.ofList updated = page := by rw [hsame, String.ofList_toList]
    exact ⟨disk, false, session, rfl, by simp [hpage], by rw [hpage, hread], fun _ => rfl, nofun⟩
  · rename_i hdiffers
    have hpage : String.ofList updated ≠ page := by
      rintro rfl
      exact hdiffers String.toList_ofList.symm
    obtain ⟨names, bytes, -, -, hwrite⟩ := Disk.write_of_isFile (isFile_of_read hread)
    have hwritten := hwrite (String.ofList updated)
    rw [hwritten]
    exact ⟨_, true, _, rfl, by simp [hpage], Disk.read_written (isFile_of_read hread) hwritten, nofun,
      fun _ => hwritten⟩

/-- A page without entries is refused. On any other page an update replaces the first entry, keeping its indentation
and the text on both sides, and a second update with the same URL changes nothing exactly if the URL has no quote. -/
theorem updateIndex_twice (disk : Disk) (index : Path) (url page : String) (session : Session)
    (hread : disk.read index = .ok page) :
    ((∀ front entry rest, ¬ EntryAt none page.toList front entry rest) →
      (updateIndex disk index url).run session =
        (.error (.emission ("no url entry in UI index " ++ index.toString)), session)) ∧
    ((∃ front entry rest, EntryAt none page.toList front entry rest) →
      ∃ (front : List Char) (entry : Entry) (rest : List Char) (new : String) (disk₁ : Disk) (changed₁ : Bool)
          (session₁ : Session),
        FirstEntry none page.toList front entry rest ∧
        new.toList = front ++ (entry.indent ++ urlEntry url.toList ++ rest) ∧
        (updateIndex disk index url).run session = (.ok (disk₁, changed₁), session₁) ∧
        Updated disk index page new disk₁ changed₁ ∧
        ∃ (left : List Char) (again : String) (disk₂ : Disk) (changed₂ : Bool) (session₂ : Session),
          again.toList = front ++ (entry.indent ++ urlEntry url.toList ++ (left ++ rest)) ∧
          (updateIndex disk₁ index url).run session₁ = (.ok (disk₂, changed₂), session₂) ∧
          Updated disk₁ index new again disk₂ changed₂ ∧
          (changed₂ = false ↔ '"' ∉ url.toList)) := by
  refine ⟨fun hnone => ?_, fun ⟨_, _, _, hat⟩ => ?_⟩
  · unfold updateIndex
    simp only [hread, pointAt?_eq_none url.toList hnone]
    rfl
  · obtain ⟨front, entry, rest, hfirst⟩ := hat.exists_first
    obtain ⟨disk₁, changed₁, session₁, hrun₁, hupdated₁⟩ := hfirst.updateIndex hread url session
    obtain ⟨entry', left, hindent, hleft, hfirst'⟩ := hfirst.written url.toList
    rw [← String.toList_ofList (l := front ++ _)] at hfirst'
    obtain ⟨disk₂, changed₂, session₂, hrun₂, hupdated₂⟩ := hfirst'.updateIndex hupdated₁.read url session₁
    rw [hindent] at hupdated₂
    refine ⟨front, entry, rest, _, disk₁, changed₁, session₁, hfirst, String.toList_ofList, hrun₁, hupdated₁,
      left, _, disk₂, changed₂, session₂, String.toList_ofList, hrun₂, hupdated₂, ?_⟩
    rw [← hleft, ← Bool.not_eq_true, hupdated₂.changed_iff]
    simp

def shownPage : String := "<script>\n  url: \"x\"\n</script>\n"

def pageDisk : Disk :=
  ⟨.folder [("index.html", .file shownPage.toUTF8)], []⟩

/-- A page is updated once to a plain URL, but time and again to one with a quote. -/
theorem updateIndex_twice_quoted :
    let index : Path := ⟨["", "index.html"]⟩
    pageDisk.read index = .ok shownPage ∧ (∃ front entry rest, EntryAt none shownPage.toList front entry rest) ∧
    (∃ disk₁ changed₁ session₁ disk₂ session₂,
      (updateIndex pageDisk index "doc.json").run {} = (.ok (disk₁, changed₁), session₁) ∧
        (updateIndex disk₁ index "doc.json").run session₁ = (.ok (disk₂, false), session₂) ∧ disk₂ = disk₁) ∧
    (∃ disk₁ changed₁ session₁ disk₂ session₂,
      (updateIndex pageDisk index "a\"b").run {} = (.ok (disk₁, changed₁), session₁) ∧
        (updateIndex disk₁ index "a\"b").run session₁ = (.ok (disk₂, true), session₂)) := by
  intro index
  have hread : pageDisk.read index = .ok shownPage := by decide +kernel
  have hentry : ∃ front entry rest, EntryAt none shownPage.toList front entry rest := by
    refine ⟨"<script>\n".toList, ⟨[' ', ' '], [' '], ['x'], [], false, List.all_eq_true.mp rfl,
      List.all_eq_true.mp rfl, List.all_eq_true.mp rfl, by decide⟩, "\n</script>\n".toList, by decide +kernel,
      by decide +kernel, fun _ c hc => ?_⟩
    obtain rfl : '\n' = c := by simpa using hc
    decide
  refine ⟨hread, hentry, ?_, ?_⟩
  · obtain ⟨-, -, -, new, disk₁, changed₁, session₁, -, -, hrun₁, -, -, again, disk₂, changed₂, session₂, -, hrun₂,
      hupdated, hplain⟩ := (updateIndex_twice pageDisk index "doc.json" shownPage {} hread).2 hentry
    obtain rfl : changed₂ = false := hplain.mpr (by decide)
    exact ⟨disk₁, changed₁, session₁, disk₂, session₂, hrun₁, hrun₂, hupdated.kept rfl⟩
  · obtain ⟨-, -, -, -, disk₁, changed₁, session₁, -, -, hrun₁, -, -, -, disk₂, changed₂, session₂, -, hrun₂, -,
      hquoted⟩ := (updateIndex_twice pageDisk index "a\"b" shownPage {} hread).2 hentry
    obtain rfl : changed₂ = true := Bool.of_not_eq_false fun hno => absurd (hquoted.mp hno) (by decide)
    exact ⟨disk₁, changed₁, session₁, disk₂, session₂, hrun₁, hrun₂⟩

end RouteDoc.Ui
