import Colloquy.Directive.Classifier

/-!
# The grammar of lines

`Directive.Fits` says which lines have the shape of a directive, and no shape mentions another. A
line fits at most one directive all the same: its leading letters tell the heading, if it has one,
and what comes after them leaves one reading. So the classifier finds the directive that a line
fits, in whatever order its rules are tried, and a line that fits none is unparsed.
-/

namespace Colloquy

open Text

/-- The subject of a line that goes on with a colon. -/
inductive Heading where
  | title (side : Side)
  | footer (side : Side)
  | setting (kind : Setting)
  deriving DecidableEq

namespace Heading

/-- Every heading. -/
def all : List Heading :=
  Side.all.map .title ++ Side.all.map .footer ++ Setting.all.map .setting

/-- The words for a heading. -/
def words : Heading → List String
  | .title .left => ["l", "left"]
  | .title .right => ["r", "right"]
  | .title .center => ["c", "center"]
  | .footer .left => ["lf", "leftFooter"]
  | .footer .right => ["rf", "rightFooter"]
  | .footer .center => ["cf", "centerFooter"]
  | .setting kind => [kind.keyword]

/-- The characters are one of the heading's words, in any mixture of ASCII cases. -/
def Spells (heading : Heading) (head : List Char) : Prop :=
  ∃ word ∈ heading.words, head.map Char.toLower = word.toList.map Char.toLower

/-- Whether the character is an ASCII letter. -/
def isLetter (c : Char) : Bool := c.toLower.isAlpha

/-- The heading that the letters spell. -/
def ofLetters? (letters : List Char) : Option Heading :=
  all.find? fun heading ↦
    heading.words.any fun word ↦ word.toList.map Char.toLower == letters.map Char.toLower

/-- Every heading is listed. -/
theorem mem_all (heading : Heading) : heading ∈ all := by
  cases heading with
  | title side => cases side <;> decide
  | footer side => cases side <;> decide
  | setting kind => cases kind <;> decide

/-- No word belongs to two headings. -/
theorem ofLetters?_of_spells {heading : Heading} {head : List Char} (h : heading.Spells head) :
    ofLetters? head = some heading := by
  have key : ∀ heading ∈ all, ∀ word ∈ heading.words, ofLetters? word.toList = some heading := by
    decide +kernel
  obtain ⟨word, hword, hhead⟩ := h
  rw [← key heading (mem_all heading) word hword, ofLetters?, ofLetters?, hhead]

/-- Words are made of letters. -/
theorem isLetter_of_spells {heading : Heading} {head : List Char} (h : heading.Spells head) :
    ∀ c ∈ head, isLetter c = true := by
  have key : ∀ heading ∈ all, ∀ word ∈ heading.words,
      (word.toList.map Char.toLower).all Char.isAlpha = true := by
    decide +kernel
  obtain ⟨word, hword, hhead⟩ := h
  intro c hc
  apply List.all_eq_true.mp (key heading (mem_all heading) word hword)
  rw [← hhead]
  exact List.mem_map_of_mem hc

end Heading

namespace Directive

/-! ### Shapes -/

/-- An identity as it is written behind the word of a title line. -/
def writtenIdentity : Option String → List Char
  | none => []
  | some identity => '-' :: identity.toList

/-- An identity is made of ASCII digits, one at least. -/
def IsIdentity (identity : Option String) : Prop :=
  ∀ digits ∈ identity, digits.toList ≠ [] ∧ digits.toList.all Char.isDigit = true

instance (identity : Option String) : Decidable (IsIdentity identity) :=
  inferInstanceAs (Decidable (∀ digits ∈ identity, digits.toList ≠ [] ∧
    digits.toList.all Char.isDigit = true))

/-- A line may do without an identity. -/
theorem isIdentity_none : IsIdentity none := fun _ hnone ↦ nomatch hnone

/-- The value of a setting for the text behind its colon: trimmed, and in lower case but for the
two widths. -/
def valueOf : Setting → List Char → String
  | .messageMaxWidth, text | .commentMaxWidth, text => trimmed text
  | _, text => String.ofList (lowercase (trim text))

/-- The line has the shape of the directive. -/
inductive Fits : Directive → List Char → Prop
  | title {side : Side} {head text : List Char} {identity : Option String}
      (hhead : (Heading.title side).Spells head) (hidentity : IsIdentity identity)
      (htext : '\n' ∉ text) :
      Fits (.title side (trimmed text) identity) (head ++ (writtenIdentity identity ++ ':' :: text))
  | footerDefault {side : Side} {head text : List Char}
      (hhead : (Heading.footer side).Spells head) (htext : '\n' ∉ text) :
      Fits (.footerDefault side (trimmed text)) (head ++ ':' :: text)
  | setting {kind : Setting} {head text : List Char}
      (hhead : (Heading.setting kind).Spells head) :
      Fits (.setting kind (valueOf kind text)) (head ++ ':' :: text)
  | hyphen : Fits .delimiter ['-']
  | delimiter : Fits .delimiter "delimiter".toList
  | comment {text : List Char} : Fits (.comment (String.ofList text)) ('#' :: text)
  | message {side : Side} {text : List Char} :
      Fits (.message side (trimmed text)) (side.operator :: text)
  | footerAttachment {text : List Char} :
      Fits (.footerAttachment (String.ofList text)) (':' :: ':' :: text)

/-! ### One directive at most -/

/-- The reading of what stands behind the word of a heading. -/
def readHeaded : Heading → List Char → Directive
  | .title side, '-' :: rest =>
    .title side (trimmed (rest.dropWhile Char.isDigit).tail)
      (some (String.ofList (rest.takeWhile Char.isDigit)))
  | .title side, rest => .title side (trimmed rest.tail) none
  | .footer side, rest => .footerDefault side (trimmed rest.tail)
  | .setting kind, rest => .setting kind (valueOf kind rest.tail)

/-- The reading of a line without a heading. -/
def readHeadless : List Char → Directive
  | '#' :: text => .comment (String.ofList text)
  | ':' :: rest => .footerAttachment (String.ofList rest.tail)
  | c :: text => (Side.ofOperator? c).elim .delimiter fun side ↦ .message side (trimmed text)
  | [] => .delimiter

/-- The only directive that a line can fit, if it fits one. Its leading letters tell the heading. -/
def candidate (line : List Char) : Directive :=
  (Heading.ofLetters? (line.takeWhile Heading.isLetter)).elim (readHeadless line) fun heading ↦
    readHeaded heading (line.dropWhile Heading.isLetter)

/-- A heading's word ends where the letters end. -/
theorem candidate_of_spells {heading : Heading} {head rest : List Char}
    (hhead : heading.Spells head) (hrest : ∀ c ∈ rest.head?, Heading.isLetter c = false) :
    candidate (head ++ rest) = readHeaded heading rest := by
  have hletters := Heading.isLetter_of_spells hhead
  have htake : rest.takeWhile Heading.isLetter = [] := by
    cases rest with
    | nil => rfl
    | cons c text => exact List.takeWhile_cons_of_neg (Bool.eq_false_iff.mp (hrest c rfl))
  have hdrop : rest.dropWhile Heading.isLetter = rest := by
    cases rest with
    | nil => rfl
    | cons c text => exact List.dropWhile_cons_of_neg (Bool.eq_false_iff.mp (hrest c rfl))
  rw [candidate, List.takeWhile_append_of_pos hletters, htake, List.append_nil,
    Heading.ofLetters?_of_spells hhead, List.dropWhile_append_of_pos hletters, hdrop]
  rfl

/-- A line fits its candidate or nothing. -/
theorem Fits.eq_candidate {directive : Directive} {line : List Char} (h : directive.Fits line) :
    directive = candidate line := by
  cases h with
  | @title side head text identity hhead hidentity htext =>
    cases identity with
    | none =>
      rw [candidate_of_spells hhead (by rintro _ ⟨⟩; decide)]
      rfl
    | some digits =>
      have hdigits := List.all_eq_true.mp (hidentity digits rfl).2
      have hcolon : Char.isDigit ':' = false := by decide
      rw [candidate_of_spells hhead (by rintro _ ⟨⟩; decide)]
      simp only [writtenIdentity, List.cons_append, readHeaded,
        List.takeWhile_append_of_pos hdigits, List.dropWhile_append_of_pos hdigits]
      simp [hcolon]
  | footerDefault hhead htext =>
    rw [candidate_of_spells hhead (by rintro _ ⟨⟩; decide)]
    rfl
  | setting hhead =>
    rw [candidate_of_spells hhead (by rintro _ ⟨⟩; decide)]
    rfl
  | hyphen => decide +kernel
  | delimiter => decide +kernel
  | comment => rfl
  | @message side text => cases side <;> rfl
  | footerAttachment => rfl

/-! ### The rules of the classifier -/

/-- A keyword is met by the same letters in any mixture of cases. -/
theorem stripKeyword?_eq_some_iff {keyword line rest : List Char} :
    stripKeyword? keyword line = some rest ↔
      ∃ head, head.map Char.toLower = keyword.map Char.toLower ∧ line = head ++ rest := by
  induction keyword generalizing line with
  | nil => simp [stripKeyword?]
  | cons k ks ih =>
    cases line with
    | nil =>
      constructor
      · rintro ⟨⟩
      · rintro ⟨head, hhead, hline⟩
        rw [(List.append_eq_nil_iff.mp hline.symm).1] at hhead
        cases hhead
    | cons c cs =>
      rw [stripKeyword?, List.map_cons]
      constructor
      · intro h
        split at h
        next hc =>
          obtain ⟨head, hhead, rfl⟩ := ih.mp h
          exact ⟨c :: head, by rw [List.map_cons, hc, hhead], rfl⟩
        next => cases h
      · rintro ⟨head, hhead, hline⟩
        obtain ⟨first, later, rfl, hfirst, hlater⟩ := List.map_eq_cons_iff.mp hhead
        obtain ⟨rfl, rfl⟩ := List.cons.inj hline
        rw [if_pos hfirst]
        exact ih.mpr ⟨later, hlater, rfl⟩

/-- Nothing may stand before a colon. -/
theorem stripColon?_eq_some_iff {line text : List Char} :
    stripColon? line = some text ↔ line = ':' :: text := by
  constructor
  · intro h
    unfold stripColon? at h
    split at h <;> cases h
    rfl
  · rintro rfl
    rfl

/-- Behind a colon the line must go on without a line feed. -/
theorem stripColonOnLine?_eq_some_iff {line text : List Char} :
    stripColonOnLine? line = some text ↔ line = ':' :: text ∧ '\n' ∉ text := by
  rw [stripColonOnLine?, Option.filter_eq_some_iff, stripColon?_eq_some_iff]
  simp

/-- What is split off is an identity. -/
theorem eq_of_splitIdentity? {line digits rest : List Char}
    (h : splitIdentity? line = some (digits, rest)) :
    line = writtenIdentity (some (String.ofList digits)) ++ rest ∧
      IsIdentity (some (String.ofList digits)) := by
  unfold splitIdentity? at h
  split at h
  next more =>
    by_cases hempty : (more.takeWhile Char.isDigit).isEmpty = true
    · rw [if_pos hempty] at h
      cases h
    · rw [if_neg hempty] at h
      cases h
      constructor
      · rw [writtenIdentity, String.toList_ofList, List.cons_append,
          List.takeWhile_append_dropWhile]
      · rintro _ ⟨⟩
        rw [String.toList_ofList]
        exact ⟨fun h ↦ hempty (List.isEmpty_iff.mpr h), List.all_takeWhile⟩
  next => cases h

/-- An identity is split off where it ends. -/
theorem splitIdentity?_append {digits : String} (h : IsIdentity (some digits)) (text : List Char) :
    splitIdentity? (writtenIdentity (some digits) ++ ':' :: text) =
      some (digits.toList, ':' :: text) := by
  obtain ⟨hne, hall⟩ := h digits rfl
  have hdigits := List.all_eq_true.mp hall
  have hcolon : Char.isDigit ':' = false := by decide
  simp only [writtenIdentity, List.cons_append, splitIdentity?,
    List.takeWhile_append_of_pos hdigits, List.dropWhile_append_of_pos hdigits]
  simp [hcolon, hne]

/-- The title lines of a keyword. -/
theorem titleOf?_eq_some_iff {keyword : String} {side : Side} {line : List Char}
    {directive : Directive} :
    titleOf? keyword side line = some directive ↔
      ∃ head identity text, head.map Char.toLower = keyword.toList.map Char.toLower ∧
        IsIdentity identity ∧ '\n' ∉ text ∧
        line = head ++ (writtenIdentity identity ++ ':' :: text) ∧
        directive = .title side (trimmed text) identity := by
  constructor
  · intro h
    obtain ⟨rest, hrest, hafter⟩ := Option.bind_eq_some_iff.mp h
    obtain ⟨head, hhead, hline⟩ := stripKeyword?_eq_some_iff.mp hrest
    split at hafter
    next digits more hsplit =>
      obtain ⟨text, htext, hsome⟩ := Option.bind_eq_some_iff.mp hafter
      obtain ⟨hmore, honLine⟩ := stripColonOnLine?_eq_some_iff.mp htext
      obtain ⟨hidentified, hidentity⟩ := eq_of_splitIdentity? hsplit
      rw [hidentified, hmore] at hline
      exact ⟨head, _, text, hhead, hidentity, honLine, hline, (Option.some.inj hsome).symm⟩
    next =>
      obtain ⟨text, htext, hsome⟩ := Option.bind_eq_some_iff.mp hafter
      obtain ⟨hmore, honLine⟩ := stripColonOnLine?_eq_some_iff.mp htext
      rw [hmore] at hline
      exact ⟨head, none, text, hhead, isIdentity_none, honLine, hline, (Option.some.inj hsome).symm⟩
  · rintro ⟨head, identity, text, hhead, hidentity, honLine, rfl, rfl⟩
    have htext : stripColonOnLine? (':' :: text) = some text :=
      stripColonOnLine?_eq_some_iff.mpr ⟨rfl, honLine⟩
    rw [titleOf?, stripKeyword?_eq_some_iff.mpr ⟨head, hhead, rfl⟩]
    cases identity with
    | none => simp [writtenIdentity, splitIdentity?, htext]
    | some digits => simp [splitIdentity?_append hidentity, htext]

/-- The default footer lines of a keyword. -/
theorem footerDefaultOf?_eq_some_iff {keyword : String} {side : Side} {line : List Char}
    {directive : Directive} :
    footerDefaultOf? keyword side line = some directive ↔
      ∃ head text, head.map Char.toLower = keyword.toList.map Char.toLower ∧ '\n' ∉ text ∧
        line = head ++ ':' :: text ∧ directive = .footerDefault side (trimmed text) := by
  constructor
  · intro h
    obtain ⟨rest, hrest, hafter⟩ := Option.bind_eq_some_iff.mp h
    obtain ⟨head, hhead, hline⟩ := stripKeyword?_eq_some_iff.mp hrest
    obtain ⟨text, htext, hsome⟩ := Option.bind_eq_some_iff.mp hafter
    obtain ⟨hmore, honLine⟩ := stripColonOnLine?_eq_some_iff.mp htext
    rw [hmore] at hline
    exact ⟨head, text, hhead, honLine, hline, (Option.some.inj hsome).symm⟩
  · rintro ⟨head, text, hhead, honLine, rfl, rfl⟩
    rw [footerDefaultOf?, stripKeyword?_eq_some_iff.mpr ⟨head, hhead, rfl⟩]
    simp [stripColonOnLine?_eq_some_iff.mpr ⟨rfl, honLine⟩]

/-- The lines of a setting. -/
theorem settingOf?_eq_some_iff {kind : Setting} {line : List Char} {directive : Directive} :
    settingOf? kind line = some directive ↔
      ∃ head text, head.map Char.toLower = kind.keyword.toList.map Char.toLower ∧
        line = head ++ ':' :: text ∧ directive = .setting kind (valueOf kind text) := by
  have hvalue : ∀ text, settingValue kind text = valueOf kind text := by
    cases kind <;> exact fun _ ↦ rfl
  constructor
  · intro h
    obtain ⟨rest, hrest, hafter⟩ := Option.bind_eq_some_iff.mp h
    obtain ⟨head, hhead, hline⟩ := stripKeyword?_eq_some_iff.mp hrest
    obtain ⟨text, htext, hsome⟩ := Option.bind_eq_some_iff.mp hafter
    rw [stripColon?_eq_some_iff.mp htext] at hline
    exact ⟨head, text, hhead, hline, hvalue text ▸ (Option.some.inj hsome).symm⟩
  · rintro ⟨head, text, hhead, rfl, rfl⟩
    rw [settingOf?, stripKeyword?_eq_some_iff.mpr ⟨head, hhead, rfl⟩]
    simp [stripColon?_eq_some_iff.mpr rfl, hvalue]

/-- The rules, in the order in which they are tried. -/
def rules : List (List Char → Option Directive) :=
  [title?, footerDefault?, setting?, delimiter?, comment?, message?, footerAttachment?]

/-- The classifier takes the answer of the first rule that has one. -/
theorem classify_eq (line : String) :
    classify line = (rules.findSome? (· line.toList)).getD (.unparsed line) := by
  have hcons : ∀ (rule : List Char → Option Directive) later,
      (rule :: later).findSome? (· line.toList) =
        (rule line.toList <|> later.findSome? (· line.toList)) := by
    intro rule later
    rw [List.findSome?_cons]
    cases rule line.toList <;> rfl
  simp only [classify, rules, hcons, List.findSome?_nil]
  simp only [Option.orElse_eq_orElse, Option.orElse_eq_or, Option.or_none]

/-- The classifier knows the same words for titles. -/
theorem mem_titleKeywords {word : String} {side : Side} :
    (word, side) ∈ titleKeywords ↔ word ∈ (Heading.title side).words := by
  cases side <;> simp [titleKeywords, Heading.words]

/-- The classifier knows the same words for default footers. -/
theorem mem_footerKeywords {word : String} {side : Side} :
    (word, side) ∈ footerKeywords ↔ word ∈ (Heading.footer side).words := by
  cases side <;> simp [footerKeywords, Heading.words]

/-! ### One rule after the other -/

variable {line : List Char} {directive : Directive}

theorem fits_of_title? (h : title? line = some directive) : directive.Fits line := by
  obtain ⟨⟨word, side⟩, hentry, htitle⟩ := List.exists_of_findSome?_eq_some h
  obtain ⟨head, identity, text, hhead, hidentity, honLine, rfl, rfl⟩ :=
    titleOf?_eq_some_iff.mp htitle
  exact .title ⟨word, mem_titleKeywords.mp hentry, hhead⟩ hidentity honLine

theorem fits_of_footerDefault? (h : footerDefault? line = some directive) :
    directive.Fits line := by
  obtain ⟨⟨word, side⟩, hentry, hfooter⟩ := List.exists_of_findSome?_eq_some h
  obtain ⟨head, text, hhead, honLine, rfl, rfl⟩ := footerDefaultOf?_eq_some_iff.mp hfooter
  exact .footerDefault ⟨word, mem_footerKeywords.mp hentry, hhead⟩ honLine

theorem fits_of_setting? (h : setting? line = some directive) : directive.Fits line := by
  obtain ⟨kind, -, hsetting⟩ := List.exists_of_findSome?_eq_some h
  obtain ⟨head, text, hhead, rfl, rfl⟩ := settingOf?_eq_some_iff.mp hsetting
  exact .setting ⟨kind.keyword, List.mem_singleton_self _, hhead⟩

theorem fits_of_delimiter? (h : delimiter? line = some directive) : directive.Fits line := by
  unfold delimiter? at h
  split at h
  next hline =>
    cases h
    obtain rfl | rfl := hline
    · exact .hyphen
    · exact .delimiter
  next => cases h

theorem fits_of_comment? (h : comment? line = some directive) : directive.Fits line := by
  unfold comment? at h
  split at h <;> cases h
  exact .comment

theorem fits_of_message? (h : message? line = some directive) : directive.Fits line := by
  unfold message? at h
  split at h
  next => cases h
  next c text =>
    obtain ⟨side, hside, rfl⟩ := Option.map_eq_some_iff.mp h
    rw [Side.ofOperator?_eq_some_iff.mp hside]
    exact .message

theorem fits_of_footerAttachment? (h : footerAttachment? line = some directive) :
    directive.Fits line := by
  unfold footerAttachment? at h
  split at h <;> cases h
  exact .footerAttachment

/-- A rule answers with a directive that the line fits. -/
theorem fits_of_rule {rule : List Char → Option Directive} (hrule : rule ∈ rules)
    (h : rule line = some directive) : directive.Fits line := by
  simp only [rules, List.mem_cons, List.not_mem_nil, or_false] at hrule
  obtain rfl | rfl | rfl | rfl | rfl | rfl | rfl := hrule
  · exact fits_of_title? h
  · exact fits_of_footerDefault? h
  · exact fits_of_setting? h
  · exact fits_of_delimiter? h
  · exact fits_of_comment? h
  · exact fits_of_message? h
  · exact fits_of_footerAttachment? h

/-- Some rule answers to a line that fits a directive. -/
theorem exists_rule_of_fits (h : directive.Fits line) :
    ∃ rule ∈ rules, (rule line).isSome := by
  cases h with
  | title hhead hidentity honLine =>
    obtain ⟨word, hword, hhead⟩ := hhead
    refine ⟨title?, by simp [rules], List.findSome?_isSome_iff.mpr ?_⟩
    refine ⟨_, mem_titleKeywords.mpr hword, ?_⟩
    rw [titleOf?_eq_some_iff.mpr ⟨_, _, _, hhead, hidentity, honLine, rfl, rfl⟩]
    rfl
  | footerDefault hhead honLine =>
    obtain ⟨word, hword, hhead⟩ := hhead
    refine ⟨footerDefault?, by simp [rules], List.findSome?_isSome_iff.mpr ?_⟩
    refine ⟨_, mem_footerKeywords.mpr hword, ?_⟩
    rw [footerDefaultOf?_eq_some_iff.mpr ⟨_, _, hhead, honLine, rfl, rfl⟩]
    rfl
  | @setting kind head text hhead =>
    obtain ⟨word, hword, hhead⟩ := hhead
    refine ⟨setting?, by simp [rules], List.findSome?_isSome_iff.mpr ⟨kind, kind.mem_all, ?_⟩⟩
    rw [List.mem_singleton.mp hword] at hhead
    rw [settingOf?_eq_some_iff.mpr ⟨_, _, hhead, rfl, rfl⟩]
    rfl
  | hyphen => exact ⟨delimiter?, by simp [rules], rfl⟩
  | delimiter => exact ⟨delimiter?, by simp [rules], rfl⟩
  | comment => exact ⟨comment?, by simp [rules], rfl⟩
  | @message side text => exact ⟨message?, by simp [rules], by cases side <;> rfl⟩
  | footerAttachment => exact ⟨footerAttachment?, by simp [rules], rfl⟩

/-- Whatever the order of the rules, the first answer is the directive that the line fits. -/
theorem findSome?_eq_some_iff_fits {order : List (List Char → Option Directive)}
    (horder : order.Perm rules) :
    order.findSome? (· line) = some directive ↔ directive.Fits line := by
  have hfits : ∀ {found}, order.findSome? (· line) = some found → found.Fits line := by
    intro found h
    obtain ⟨rule, hrule, hanswer⟩ := List.exists_of_findSome?_eq_some h
    exact fits_of_rule (horder.mem_iff.mp hrule) hanswer
  constructor
  · exact hfits
  · intro h
    obtain ⟨rule, hrule, hsome⟩ := exists_rule_of_fits h
    obtain ⟨found, hfound⟩ := Option.isSome_iff_exists.mp
      (List.findSome?_isSome_iff (f := (· line)) |>.mpr ⟨rule, horder.mem_iff.mpr hrule, hsome⟩)
    rw [hfound, h.eq_candidate, (hfits hfound).eq_candidate]

/-- A line that fits a directive is classified as it. -/
theorem classify_of_fits {directive : Directive} {line : String} (h : directive.Fits line.toList) :
    classify line = directive := by
  rw [classify_eq, (findSome?_eq_some_iff_fits (List.Perm.refl rules)).mpr h]
  rfl

/-- A line is classified as a directive that it fits, or else as unparsed. -/
theorem fits_classify_or (line : String) :
    (classify line).Fits line.toList ∨
      classify line = .unparsed line ∧ ∀ directive : Directive, ¬directive.Fits line.toList := by
  rw [classify_eq]
  cases hfound : rules.findSome? (· line.toList) with
  | some directive =>
    exact .inl ((findSome?_eq_some_iff_fits (List.Perm.refl rules)).mp hfound)
  | none =>
    refine .inr ⟨rfl, fun directive h ↦ ?_⟩
    rw [(findSome?_eq_some_iff_fits (List.Perm.refl rules)).mpr h] at hfound
    cases hfound

/-- A line is classified as a directive exactly when it fits it, and as unparsed when it fits none.
No line fits two directives, so the rules may be tried in any order. -/
theorem classify_eq_iff_fits (line : String) :
    (∀ directive, classify line = directive ↔ directive.Fits line.toList ∨
      directive = .unparsed line ∧ ∀ other : Directive, ¬other.Fits line.toList) ∧
    (∀ directive other : Directive, directive.Fits line.toList → other.Fits line.toList →
      directive = other) ∧
    ∀ order : List (List Char → Option Directive), order.Perm rules →
      (order.findSome? (· line.toList)).getD (.unparsed line) = classify line := by
  refine ⟨fun directive ↦ ⟨?_, ?_⟩, fun directive other h hother ↦ ?_, fun order horder ↦ ?_⟩
  · rintro rfl
    exact fits_classify_or line
  · rintro (h | ⟨rfl, hnone⟩)
    · exact classify_of_fits h
    · exact ((fits_classify_or line).resolve_left (hnone _)).1
  · rw [h.eq_candidate, hother.eq_candidate]
  · rw [classify_eq]
    congr 1
    ext directive
    rw [findSome?_eq_some_iff_fits horder, findSome?_eq_some_iff_fits (List.Perm.refl rules)]

/-- A title line with an identity, read by the rules in reverse. -/
theorem classify_eq_iff_fits_numberedLine :
    let line := "CENTER-07: Ann:e "
    let title := Directive.title .center "Ann:e" (some "07")
    title.Fits line.toList ∧ rules.reverse.Perm rules ∧
      (rules.reverse.findSome? (· line.toList)).getD (.unparsed line) = title := by
  intro line title
  obtain ⟨hclassify, -, horder⟩ := classify_eq_iff_fits line
  have htitle : classify line = title := by decide +kernel
  have hfits : title.Fits line.toList :=
    ((hclassify title).mp htitle).resolve_right fun h ↦ nomatch h.1
  have hperm : rules.reverse.Perm rules := List.reverse_perm rules
  exact ⟨hfits, hperm, (horder _ hperm).trans htitle⟩

end Directive
end Colloquy
