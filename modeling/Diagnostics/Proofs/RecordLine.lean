import Diagnostics.Proofs.Header
import Diagnostics.Proofs.Matches
import Diagnostics.Preset

/-!
# Lines of records

A `Line` is a text that the template of records admits: a file, a header and a message. In a text
that has such a line, the search finds a match where the line begins (`Line.start_eq`). The match is
the line itself (`Line.groups_eq`), unless a header stands inside the file; then the match has a
shorter file (`Line.exists_length_file_lt`).
-/

namespace Diagnostics

/-- A header stands in the file, with text of the file in front of it. -/
def HasInnerHeader (file : Text) : Prop :=
  ∃ offset pieces, 1 ≤ offset ∧ CutAt Vocabulary.standard Header.tokens file offset pieces

/-- A file with an inner header is a shorter file, the header and some more text. -/
theorem hasInnerHeader_iff {file : Text} : HasInnerHeader file ↔
    ∃ (shorter : Text) (h : Header) (rest : Text), shorter ≠ [] ∧
      file = shorter ++ (h.text ++ rest) := by
  constructor
  · rintro ⟨_, _, hoffset, shorter, rest, rfl, rfl, hcut⟩
    obtain ⟨h, rfl⟩ := Header.isCut_iff.1 hcut
    refine ⟨shorter, h, rest, List.length_pos_iff.1 hoffset, ?_⟩
    rw [Header.flatten_pieces, List.append_assoc]
  · rintro ⟨shorter, h, rest, hne, rfl⟩
    refine ⟨shorter.length, h.pieces, List.length_pos_iff.2 hne, shorter, rest, ?_, rfl, ?_⟩
    · rw [Header.flatten_pieces, List.append_assoc]
    · exact Header.isCut_iff.2 ⟨h, rfl⟩

example : HasInnerHeader "a:1:2: error: b".toList :=
  ⟨1, [[':'], ['1'], [':'], ['2'], [':', ' '], "error".toList, [':', ' ']], by decide, "a".toList,
    "b".toList, by decide, rfl, by decide +kernel⟩

/-- A file without a space has no inner header. -/
theorem HasInnerHeader.space_mem {file : Text} (h : HasInnerHeader file) : ' ' ∈ file := by
  obtain ⟨shorter, header, rest, -, rfl⟩ := hasInnerHeader_iff.1 h
  simp [Header.text]

/-- A text that the template of records admits. -/
@[ext] structure Line where
  /-- The name of the file. -/
  file : Text
  /-- The line, the column and the kind. -/
  header : Header
  /-- The message. -/
  message : Text
  /-- The file has a name. -/
  file_ne_nil : file ≠ []
  /-- The name of the file has no null character. -/
  nul_notMem_file : '\x00' ∉ file
  /-- The name of the file stands on one line. -/
  lineFeed_notMem_file : '\n' ∉ file
  /-- There is a message. -/
  message_ne_nil : message ≠ []
  /-- The message stands on one line. -/
  lineFeed_notMem_message : '\n' ∉ message

namespace Line

/-- The tokens of the template of records. -/
def tokens : List Token :=
  .placeholder .file :: (Header.tokens ++ [.placeholder .message])

/-- There are tokens. -/
theorem tokens_ne_nil : tokens ≠ [] := List.cons_ne_nil _ _

/-- The template of records is the one that is used for messages that are records already. -/
theorem ofText_passthrough : Template.ofText Preset.passthrough.template = ⟨tokens⟩ := by
  decide +kernel

/-- The pieces of the line, one for each token. -/
def pieces (l : Line) : List Text :=
  l.file :: (l.header.pieces ++ [l.message])

/-- The line as text. -/
def text (l : Line) : Text :=
  l.file ++ (l.header.text ++ l.message)

variable {l l' : Line}

/-- The pieces make up the text. -/
@[simp] theorem flatten_pieces : l.pieces.flatten = l.text := by
  simp [pieces, text]

/-- A line is known by its pieces. -/
theorem pieces_inj : l.pieces = l'.pieces ↔ l = l' := by
  constructor
  · intro h
    obtain ⟨hfile, hrest⟩ := List.cons.inj h
    obtain ⟨hheader, hmessage⟩ := List.append_inj' hrest rfl
    refine Line.ext hfile (Header.ext ?_ ?_ ?_) (List.cons.inj hmessage).1
    all_goals
      simp only [Header.pieces, List.cons.injEq] at hheader
      simp [hheader]
  · rintro rfl
    rfl

/-- What the tokens of the template admit are the pieces of lines, whatever stands around. -/
theorem isCut_iff {left right : Text} {pieces : List Text} :
    IsCut Vocabulary.standard tokens left pieces right ↔ ∃ l : Line, pieces = l.pieces := by
  constructor
  · rintro (_ | ⟨hfile, hrest⟩)
    obtain ⟨_, _, rfl, hheader, _ | ⟨hmessage, ⟨⟩⟩⟩ := IsCut.append_iff.1 hrest
    obtain ⟨h, rfl⟩ := Header.isCut_iff.1 hheader
    exact ⟨⟨_, h, _, hfile.1, hfile.2.1, hfile.2.2, hmessage.1, hmessage.2⟩, rfl⟩
  · rintro ⟨l, rfl⟩
    refine .cons ⟨l.file_ne_nil, l.nul_notMem_file, l.lineFeed_notMem_file⟩ ?_
    refine IsCut.append_iff.2 ⟨_, _, rfl, Header.isCut_iff.2 ⟨l.header, rfl⟩, ?_⟩
    exact .cons ⟨l.message_ne_nil, l.lineFeed_notMem_message⟩ .nil

/-- A line is not empty. -/
theorem text_ne_nil (l : Line) : l.text ≠ [] :=
  List.append_ne_nil_of_left_ne_nil l.file_ne_nil _

/-- A line is not empty, so it may follow any match. -/
theorem mayFollow (l : Line) (previous : Option Match) (offset : Nat) :
    MayFollow previous offset l.pieces := by
  intro m _ _ _
  rw [flatten_pieces]
  exact l.text_ne_nil

/-! ## Which of two lines is found -/

/-- A line that precedes another one has no longer file. -/
theorem length_file_le (h : Precedes tokens l'.pieces l.pieces) :
    l'.file.length ≤ l.file.length := by
  rcases precedes_cons_iff.1 h with hprefers | ⟨hfile, -⟩
  · exact Nat.le_of_lt hprefers
  · exact Nat.le_of_eq (congrArg List.length hfile)

/-- Of two lines with the same file and the same header the one with the longer message precedes. -/
theorem length_message_lt (h : Precedes tokens l'.pieces l.pieces) (hfile : l'.file = l.file)
    (hheader : l'.header = l.header) : l.message.length < l'.message.length := by
  rcases precedes_cons_iff.1 h with hprefers | ⟨-, hprecedes⟩
  · exact absurd hfile hprefers.ne
  · rw [hheader, precedes_append_iff (Header.length_pieces _), precedes_cons_iff] at hprecedes
    rcases hprecedes with hprefers | ⟨-, ⟨⟩⟩
    exact hprefers

/-- A text on one line that goes on no further than another one at the same place, where that one
goes on to the end of the line. -/
theorem length_le_of_append_eq {message message' rest tail : Text}
    (hline : '\n' ∉ message') (htail : tail = [] ∨ ∃ t, tail = '\n' :: t)
    (heq : message ++ tail = message' ++ rest) : message'.length ≤ message.length := by
  rcases List.append_eq_append_iff.1 heq with ⟨more, rfl, hmore⟩ | ⟨more, rfl, -⟩
  · rcases htail with rfl | ⟨t, rfl⟩
    · obtain ⟨rfl, -⟩ := List.append_eq_nil_iff.1 hmore.symm
      simp
    · cases more with
      | nil => simp
      | cons c more =>
        obtain ⟨rfl, -⟩ := List.cons.inj hmore
        exact absurd (List.mem_append_right _ List.mem_cons_self) hline
  · simp

/-- A line that precedes another one at the same place, which reaches to the end of its text or of a
line there, ends its file where a header stands inside the file of the other one. -/
theorem hasInnerHeader_of_precedes {tail rest : Text} (htail : tail = [] ∨ ∃ t, tail = '\n' :: t)
    (heq : l.text ++ tail = l'.text ++ rest) (h : Precedes tokens l'.pieces l.pieces) :
    HasInnerHeader l.file := by
  have hprefix' : l'.file <+: l.text ++ tail :=
    ⟨l'.header.text ++ l'.message ++ rest, by rw [heq]; simp [text]⟩
  have hprefix : l.file <+: l.text ++ tail :=
    ⟨l.header.text ++ l.message ++ tail, by simp [text]⟩
  obtain ⟨skipped, hfile⟩ := List.prefix_of_prefix_length_le hprefix' hprefix (length_file_le h)
  have hskipped : skipped ++ (l.header.text ++ (l.message ++ tail)) =
      l'.header.text ++ (l'.message ++ rest) := by
    simpa [text, ← hfile] using heq
  by_cases hnil : skipped = []
  · -- Both files and both headers are the same; but no message goes beyond the end of the line.
    subst hnil
    obtain ⟨hheader, hmessage⟩ := Header.text_append_inj hskipped
    have hlt := length_message_lt h (by simpa using hfile) hheader.symm
    have hle := length_le_of_append_eq l'.lineFeed_notMem_message htail hmessage
    omega
  · obtain ⟨between, rfl, -⟩ := Header.exists_of_append_text_append hskipped hnil
    exact hasInnerHeader_iff.2 ⟨l'.file, l'.header, between, l'.file_ne_nil, hfile.symm⟩

/-- A line with an inner header in its file is also a line with a shorter file. -/
theorem exists_shorter_file (h : HasInnerHeader l.file) :
    ∃ l' : Line, l'.text = l.text ∧ l'.file.length < l.file.length := by
  obtain ⟨shorter, header, rest, hne, hfile⟩ := hasInnerHeader_iff.1 h
  have hnul := l.nul_notMem_file
  have hlineFeed := l.lineFeed_notMem_file
  rw [hfile, List.mem_append, List.mem_append, not_or, not_or] at hnul hlineFeed
  refine ⟨⟨shorter, header, rest ++ l.header.text ++ l.message, hne, hnul.1, hlineFeed.1, ?_, ?_⟩,
    ?_, ?_⟩
  · exact List.append_ne_nil_of_right_ne_nil _ l.message_ne_nil
  · simp [hlineFeed.2.2, l.header.lineFeed_notMem_text, l.lineFeed_notMem_message]
  · simp [text, hfile]
  · have hpos := List.length_pos_iff.2 header.text_ne_nil
    rw [hfile, List.length_append, List.length_append]
    exact Nat.lt_add_of_pos_right (Nat.add_pos_left hpos _)

/-! ## The match that is found at a line -/

section

variable {before lead tail : Text} {previous : Option Match} {m : Match}

/-- A line is a cut of every text in which it stands. -/
theorem cutAt_pieces (l : Line) : CutAt Vocabulary.standard tokens
    (before ++ (lead ++ (l.text ++ tail))) (before ++ lead).length l.pieces := by
  refine ⟨before ++ lead, tail, ?_, rfl, isCut_iff.2 ⟨l, rfl⟩⟩
  rw [flatten_pieces]
  simp

/-- The match that is found next is at the line: not before it, where there is at most a line
feed. -/
theorem start_eq (hbefore : before.length = resumeOffset previous)
    (hlead : lead = [] ∨ lead = ['\n'])
    (hm : IsNextMatch Vocabulary.standard tokens (before ++ (lead ++ (l.text ++ tail))) previous m) :
    m.start = (before ++ lead).length := by
  have hge := hm.resumeOffset_le
  rw [← hbefore] at hge
  have hle := hm.leftmost _ _ l.cutAt_pieces (by rw [← hbefore]; simp) (l.mayFollow _ _)
  rcases hlead with rfl | rfl
  · exact Nat.le_antisymm hle (by simpa using hge)
  · rw [List.length_append, List.length_singleton] at hle ⊢
    refine Nat.le_antisymm hle (Nat.lt_of_le_of_ne hge fun hstart => ?_)
    -- No file begins with a line feed.
    have hcut := hm.cutAt
    rw [← hstart] at hcut
    obtain ⟨rest, htext, hpieces⟩ := cutAt_length_iff.1 hcut
    obtain ⟨l', hl'⟩ := isCut_iff.1 hpieces
    obtain ⟨c, file, hfile⟩ := List.exists_cons_of_ne_nil l'.file_ne_nil
    have hc : '\n' = c := by
      simp only [hl', flatten_pieces, text, hfile] at htext
      exact (List.cons.inj htext).1
    exact l'.lineFeed_notMem_file (by rw [hfile, hc]; exact List.mem_cons_self)

/-- The groups of the match that is found next are a line at the same place, and they are this line
or precede it. -/
theorem exists_groups_eq (hbefore : before.length = resumeOffset previous)
    (hlead : lead = [] ∨ lead = ['\n'])
    (hm : IsNextMatch Vocabulary.standard tokens (before ++ (lead ++ (l.text ++ tail))) previous m) :
    ∃ (l' : Line) (rest : Text), m.groups = l'.pieces ∧ l.text ++ tail = l'.text ++ rest ∧
      (l = l' ∨ Precedes tokens l'.pieces l.pieces) := by
  have hstart := start_eq hbefore hlead hm
  have hcut := hm.cutAt
  rw [hstart, ← List.append_assoc] at hcut
  obtain ⟨rest, htext, hpieces⟩ := cutAt_length_iff.1 hcut
  obtain ⟨l', hl'⟩ := isCut_iff.1 hpieces
  have hfirst := hm.first l.pieces (hstart ▸ l.cutAt_pieces) (l.mayFollow _ _)
  rw [hl', flatten_pieces] at htext
  rw [hl', pieces_inj] at hfirst
  exact ⟨l', rest, hl', htext, hfirst⟩

/-- If there is no inner header in the file, the match is the line. -/
theorem groups_eq (hbefore : before.length = resumeOffset previous)
    (hlead : lead = [] ∨ lead = ['\n']) (htail : tail = [] ∨ ∃ t, tail = '\n' :: t)
    (hm : IsNextMatch Vocabulary.standard tokens (before ++ (lead ++ (l.text ++ tail))) previous m)
    (hfile : ¬HasInnerHeader l.file) : m.groups = l.pieces := by
  obtain ⟨l', rest, hgroups, htext, rfl | hprecedes⟩ := exists_groups_eq hbefore hlead hm
  · exact hgroups
  · exact absurd (hasInnerHeader_of_precedes htail htext hprecedes) hfile

/-- If there is an inner header in the file, the match is a line with a shorter file. -/
theorem exists_length_file_lt (hbefore : before.length = resumeOffset previous)
    (hlead : lead = [] ∨ lead = ['\n'])
    (hm : IsNextMatch Vocabulary.standard tokens (before ++ (lead ++ (l.text ++ tail))) previous m)
    (hfile : HasInnerHeader l.file) :
    ∃ l' : Line, m.groups = l'.pieces ∧ l'.file.length < l.file.length := by
  obtain ⟨shorter, htext, hlt⟩ := exists_shorter_file hfile
  rw [← htext] at hm
  obtain ⟨l', rest, hgroups, -, rfl | hprecedes⟩ := exists_groups_eq hbefore hlead hm
  · exact ⟨shorter, hgroups, hlt⟩
  · exact ⟨l', hgroups, Nat.lt_of_le_of_lt (length_file_le hprecedes) hlt⟩

/-- At the end of the text there is no line, so no match is left. -/
theorem all_resume_eq_nil {text : Text} (htext : text.length = resumeOffset previous) :
    (Scan.resume text previous).all (Template.pattern ⟨tokens⟩ Vocabulary.standard) = [] := by
  cases hall : (Scan.resume text previous).all (Template.pattern ⟨tokens⟩ Vocabulary.standard) with
  | nil => rfl
  | cons m later =>
    obtain ⟨hnext, -⟩ := isNextMatch_of_all_resume_eq_cons (Nat.le_of_eq htext.symm) hall
    obtain ⟨_, _, -, -, hcut⟩ := hnext.cutAt
    obtain ⟨l, hgroups⟩ := isCut_iff.1 hcut
    have hge := hnext.resumeOffset_le
    have hle := hnext.cutAt.extract_eq.1
    rw [hgroups, flatten_pieces] at hle
    have hpos := List.length_pos_iff.2 l.text_ne_nil
    omega

end

end Line

end Diagnostics
