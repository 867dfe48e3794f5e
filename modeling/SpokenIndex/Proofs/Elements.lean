/-
Script elements and the text around them.

A component file is written as markup with script elements in between.  An element has an
opening tag with attributes, a body and a closing tag, and both tags may be written in any
case.  Reading such a file gives back its elements, one by one and in order (`blocks_page`).

Three things have to be seen.  An opening tag ends at its own bracket, for there is none in
its attributes.  A body ends at the closing tag that was written for it, for there is none in
the body, and none comes up where the two meet.  Nothing begins in the markup, for the same
two reasons.  In the end what is found in the file is what is found in the bodies, and the
first body that is refused refuses the file.
-/
import SpokenIndex.Proofs.Spelling
import SpokenIndex.Source.Extraction

namespace SpokenIndex

open SpokenIndex.Text

namespace Vue

variable {word s rest tail first body after : List Char} {c : Char} {b : Block}

/-! ### Tags -/

/-- What every opening tag begins with. -/
def openWord : List Char := "<script".toList

/-- What every closing tag begins with. -/
def closeWord : List Char := "</script".toList

/-- A word that begins with an angle bracket and has no other. -/
def IsTagWord (word : List Char) : Prop :=
  ∃ letters, word = '<' :: letters ∧ (letters.all fun a => !sameLetter a '<') = true

theorem isTagWord_openWord : IsTagWord openWord :=
  ⟨"script".toList, by decide, by decide⟩

theorem isTagWord_closeWord : IsTagWord closeWord :=
  ⟨"/script".toList, by decide, by decide⟩

/-- A text that can stand behind markup: it is empty or begins with an angle bracket. -/
def IsAtTag (tail : List Char) : Prop :=
  tail = [] ∨ ∃ behind, tail = '<' :: behind

theorem IsTagWord.isAtTag (hword : IsTagWord word) (h : dropWord word s = some rest) :
    IsAtTag s := by
  obtain ⟨letters, rfl, -⟩ := hword
  exact Or.inr (head_of_dropWord_tag h)

/-- A tag does not come up where two texts meet. -/
theorem IsTagWord.dropWord_append (hword : IsTagWord word) (h : dropWord word (c :: s) = none)
    (htail : IsAtTag tail) : dropWord word (c :: s ++ tail) = none := by
  obtain ⟨letters, rfl, hletters⟩ := hword
  rcases htail with rfl | ⟨behind, rfl⟩
  · rwa [List.append_nil]
  · exact dropWord_tag_append (by simpa using hletters) h behind

theorem openTag?_of_none (h : dropWord openWord s = none) : openTag? s = none := by
  have hword : dropWord "<script".toList s = none := h
  rw [openTag?, hword]

theorem closeTag?_of_none (h : dropWord closeWord s = none) : closeTag? s = none := by
  have hword : dropWord "</script".toList s = none := h
  rw [closeTag?, hword]

/-- A body goes on up to the closing tag that follows it. -/
theorem bodyUpToClose_append (hfree : IsFreeOf closeWord body) (htail : IsAtTag tail)
    (hclose : closeTag? tail = some after) :
    bodyUpToClose (body ++ tail) = some (body, after) := by
  induction body with
  | nil =>
      cases tail with
      | nil => simp [closeTag?, dropWord] at hclose
      | cons c tail => rw [List.nil_append, bodyUpToClose, hclose]
  | cons c rest ih =>
      obtain ⟨hhere, hrest⟩ := isFreeOf_cons.mp hfree
      have hnone := closeTag?_of_none (isTagWord_closeWord.dropWord_append hhere htail)
      rw [List.cons_append] at hnone ⊢
      rw [bodyUpToClose, hnone, ih hrest]
      rfl

/-! ### Elements -/

/-- A script element as it is written: the opening tag up to its attributes, the attributes, the
body, and the closing tag up to its bracket. -/
structure Element where
  opening : List Char
  attributes : List Char
  body : List Char
  closing : List Char

namespace Element

/-- The text of an element. -/
def text (e : Element) : List Char :=
  e.opening ++ (e.attributes ++ '>' :: (e.body ++ (e.closing ++ ['>'])))

/-- The block that an element is read as. -/
def block (e : Element) : Block := ⟨e.attributes, e.body⟩

/-- An element is written properly. -/
structure IsProper (e : Element) : Prop where
  /-- The opening tag is the word, in any case. -/
  opening : dropWord openWord e.opening = some []
  /-- Attributes are set off from the word. -/
  set_off : ∀ c, e.attributes.head? = some c → isBlank c = true
  /-- The opening tag ends behind the attributes. -/
  no_bracket : '>' ∉ e.attributes
  /-- The body ends with the closing tag. -/
  body : IsFreeOf closeWord e.body
  /-- The closing tag is the word, in any case, and blanks. -/
  closing : ∃ blanks, dropWord closeWord e.closing = some blanks ∧ ∀ c ∈ blanks, isBlank c = true

variable {e : Element}

theorem IsProper.openTag?_eq (h : e.IsProper) (behind : List Char) :
    openTag? (e.opening ++ (e.attributes ++ '>' :: behind)) = some (e.attributes, behind) := by
  have hword : dropWord "<script".toList (e.opening ++ (e.attributes ++ '>' :: behind))
      = some (e.attributes ++ '>' :: behind) := dropWord_append h.opening _
  have hfirst : (e.attributes ++ '>' :: behind).head?.any isWordChar = false := by
    cases hattributes : e.attributes with
    | nil => rfl
    | cons c rest => simpa using isWordChar_of_isBlank (h.set_off c (by simp [hattributes]))
  have hinside : ∀ c ∈ e.attributes, decide (c ≠ '>') = true := fun c hc => by
    simpa using fun heq : c = '>' => h.no_bracket (heq ▸ hc)
  rw [openTag?, hword]
  simp only [hfirst, Bool.false_eq_true, ↓reduceIte]
  rw [List.dropWhile_append_of_pos hinside, List.takeWhile_append_of_pos hinside]
  simp

theorem IsProper.closeTag?_eq (h : e.IsProper) (behind : List Char) :
    closeTag? (e.closing ++ ('>' :: behind)) = some behind := by
  obtain ⟨blanks, hword, hblanks⟩ := h.closing
  have hall : dropWord "</script".toList (e.closing ++ ('>' :: behind))
      = some (blanks ++ '>' :: behind) := dropWord_append hword _
  have hbracket : isBlank '>' = false := by decide
  rw [closeTag?, hall]
  simp only
  rw [List.dropWhile_append_of_pos hblanks, List.dropWhile_cons_of_neg (by simp [hbracket])]
  rfl

theorem IsProper.isAtTag_text (h : e.IsProper) (behind : List Char) :
    IsAtTag (e.text ++ behind) := by
  rw [text, List.append_assoc]
  exact isTagWord_openWord.isAtTag (dropWord_append h.opening _)

theorem IsProper.bodyUpToClose_eq (h : e.IsProper) (behind : List Char) :
    bodyUpToClose (e.body ++ (e.closing ++ '>' :: behind)) = some (e.body, behind) := by
  obtain ⟨blanks, hword, -⟩ := h.closing
  have htag := isTagWord_closeWord.isAtTag (dropWord_append hword ('>' :: behind))
  exact bodyUpToClose_append h.body htag (h.closeTag?_eq behind)

/-- An element at the front of a text is read off as a whole. -/
theorem IsProper.block?_eq (h : e.IsProper) (behind : List Char) :
    block? (e.text ++ behind) = some (e.block, behind) := by
  have htext : e.text ++ behind = e.opening ++ (e.attributes ++ '>' ::
      (e.body ++ (e.closing ++ '>' :: behind))) := by simp [text]
  rw [htext, block?, h.openTag?_eq]
  simp only [h.bodyUpToClose_eq, Option.map_some]
  rfl

end Element

/-! ### Reading a file -/

theorem blocks_of_block? (h : block? s = some (b, after)) : blocks s = b :: blocks after := by
  rw [blocks]
  split
  · rename_i found rest hfound
    obtain ⟨rfl, rfl⟩ := Prod.mk.inj (Option.some.inj (hfound.symm.trans h))
    rfl
  · rename_i hnone
    rw [h] at hnone
    simp at hnone

theorem blocks_of_openTag?_none (h : openTag? (c :: s) = none) : blocks (c :: s) = blocks s := by
  have hblock : block? (c :: s) = none := by rw [block?, h]
  rw [blocks]
  split
  · rename_i hfound
    rw [hblock] at hfound
    simp at hfound
  · rfl

theorem blocks_nil : blocks [] = [] := by
  rw [blocks]
  rfl

/-- Markup is passed over. -/
theorem blocks_append (hfree : IsFreeOf openWord first) (htail : IsAtTag tail) :
    blocks (first ++ tail) = blocks tail := by
  induction first with
  | nil => rfl
  | cons c rest ih =>
      obtain ⟨hhere, hrest⟩ := isFreeOf_cons.mp hfree
      have hnone := openTag?_of_none (isTagWord_openWord.dropWord_append hhere htail)
      rw [List.cons_append] at hnone ⊢
      rw [blocks_of_openTag?_none hnone, ih hrest]

/-- A file: markup, and elements with the markup behind each of them. -/
def page (first : List Char) (parts : List (Element × List Char)) : List Char :=
  first ++ parts.flatMap fun part => part.1.text ++ part.2

/-- A file is read as its elements. -/
theorem blocks_page {parts : List (Element × List Char)} (hfirst : IsFreeOf openWord first)
    (hparts : ∀ part ∈ parts, part.1.IsProper ∧ IsFreeOf openWord part.2) :
    blocks (page first parts) = parts.map fun part => part.1.block := by
  induction parts generalizing first with
  | nil =>
      rw [page, List.flatMap_nil, blocks_append hfirst (Or.inl rfl), blocks_nil]
      rfl
  | cons part parts ih =>
      obtain ⟨hproper, hfree⟩ := hparts part List.mem_cons_self
      have hpage : page first (part :: parts) = first ++ (part.1.text ++ page part.2 parts) := by
        simp [page]
      rw [hpage, blocks_append hfirst (hproper.isAtTag_text _),
        blocks_of_block? (hproper.block?_eq _),
        ih hfree fun p hp => hparts p (List.mem_cons_of_mem _ hp), List.map_cons]

end Vue

/-! ### The declarations of a file -/

section

/-- What is answered for a text: declarations or a fault. -/
abbrev Answer := Except ExtractorFault (List Declaration)

variable {script : Extractor} {answers after : List Answer} {blocks : List Vue.Block}
  {found : List Declaration} {lists before : List (List Declaration)} {fault : ExtractorFault}

/-- What is found in a block. -/
def blockAnswer (script : Extractor) (b : Vue.Block) : Answer :=
  extractWith script (Vue.scriptLanguage b.attributes) (String.ofList b.body)

/-- A block holds a script and no blocks of its own. -/
theorem blockAnswer_eq (script : Extractor) (b : Vue.Block) :
    blockAnswer script b = script (Vue.scriptLanguage b.attributes) (String.ofList b.body) := by
  have hlanguage : Vue.scriptLanguage b.attributes ≠ .vue := by
    unfold Vue.scriptLanguage
    split
    · split_ifs <;> simp
    · simp
  rw [blockAnswer]
  cases hblock : Vue.scriptLanguage b.attributes with
  | vue => exact absurd hblock hlanguage
  | javascript => rfl
  | typescript => rfl
  | tsx => rfl

theorem extractBlocks_cons (b : Vue.Block) (rest : List Vue.Block) :
    extractBlocks script (b :: rest) = (blockAnswer script b).bind fun found =>
      (extractBlocks script rest).map (found ++ ·) := by
  rw [extractBlocks, blockAnswer_eq]
  cases script (Vue.scriptLanguage b.attributes) (String.ofList b.body) <;> rfl

theorem extractBlocks_of_ok (h : blocks.map (blockAnswer script) = lists.map Except.ok) :
    extractBlocks script blocks = .ok lists.flatten := by
  induction blocks generalizing lists with
  | nil =>
      obtain rfl : lists = [] := by simpa using h.symm
      rfl
  | cons b rest ih =>
      obtain ⟨found, lists, rfl, hfound, hlists⟩ := List.map_eq_cons_iff.mp h.symm
      rw [extractBlocks_cons, ← hfound, ih hlists.symm]
      rfl

theorem extractBlocks_of_error
    (h : blocks.map (blockAnswer script) = before.map Except.ok ++ .error fault :: after) :
    extractBlocks script blocks = .error fault := by
  induction before generalizing blocks with
  | nil =>
      obtain ⟨b, rest, rfl, hfault, -⟩ := List.map_eq_cons_iff.mp h
      rw [extractBlocks_cons, hfault]
      rfl
  | cons found before ih =>
      obtain ⟨b, rest, rfl, hfound, hrest⟩ := List.map_eq_cons_iff.mp h
      rw [extractBlocks_cons, hfound, ih hrest]
      rfl

/-- Either every answer gives declarations, or there is a first one that is a fault. -/
theorem answers_cases (answers : List Answer) :
    (∃ lists : List (List Declaration), answers = lists.map Except.ok) ∨
      ∃ (before : List (List Declaration)) (fault : ExtractorFault) (after : List Answer),
        answers = before.map Except.ok ++ .error fault :: after := by
  induction answers with
  | nil => exact Or.inl ⟨[], rfl⟩
  | cons answer rest ih =>
      cases answer with
      | error fault => exact Or.inr ⟨[], fault, rest, rfl⟩
      | ok found =>
          rcases ih with ⟨lists, rfl⟩ | ⟨before, fault, after, rfl⟩
          · exact Or.inl ⟨found :: lists, rfl⟩
          · exact Or.inr ⟨found :: before, fault, after, rfl⟩

theorem extractBlocks_eq_ok_iff : extractBlocks script blocks = .ok found ↔
    ∃ lists : List (List Declaration),
      blocks.map (blockAnswer script) = lists.map Except.ok ∧ found = lists.flatten := by
  constructor
  · intro h
    rcases answers_cases (blocks.map (blockAnswer script)) with
      ⟨lists, hlists⟩ | ⟨before, fault, after, hfault⟩
    · rw [extractBlocks_of_ok hlists] at h
      exact ⟨lists, hlists, (Except.ok.inj h).symm⟩
    · rw [extractBlocks_of_error hfault] at h
      simp at h
  · rintro ⟨lists, hlists, rfl⟩
    exact extractBlocks_of_ok hlists

theorem extractBlocks_eq_error_iff : extractBlocks script blocks = .error fault ↔
    ∃ (before : List (List Declaration)) (after : List Answer),
      blocks.map (blockAnswer script) = before.map Except.ok ++ .error fault :: after := by
  constructor
  · intro h
    rcases answers_cases (blocks.map (blockAnswer script)) with
      ⟨lists, hlists⟩ | ⟨before, first, after, hfault⟩
    · rw [extractBlocks_of_ok hlists] at h
      simp at h
    · rw [extractBlocks_of_error hfault] at h
      obtain rfl := Except.error.inj h
      exact ⟨before, after, hfault⟩
  · rintro ⟨before, after, hfault⟩
    exact extractBlocks_of_error hfault

/-- **The declarations of a file are those of its elements.**  They are found in one element after
the other, each read in the language that its attributes tell, and the first element that is refused
refuses the file with its fault. -/
theorem extract_page (script : Extractor) {first : List Char}
    {parts : List (Vue.Element × List Char)} (hfirst : IsFreeOf Vue.openWord first)
    (hparts : ∀ part ∈ parts, part.1.IsProper ∧ IsFreeOf Vue.openWord part.2) :
    let text := String.ofList (Vue.page first parts)
    let answers := parts.map fun part =>
      extractWith script (Vue.scriptLanguage part.1.attributes) (String.ofList part.1.body)
    (∀ found, extractWith script .vue text = .ok found ↔
      ∃ lists : List (List Declaration), answers = lists.map Except.ok ∧ found = lists.flatten) ∧
    ∀ fault, extractWith script .vue text = .error fault ↔
      ∃ (before : List (List Declaration)) (after : List Answer),
        answers = before.map Except.ok ++ .error fault :: after := by
  intro text answers
  have hanswers : (Vue.blocks text.toList).map (blockAnswer script) = answers := by
    rw [String.toList_ofList, Vue.blocks_page hfirst hparts, List.map_map]
    rfl
  have hextract : extractWith script .vue text = extractBlocks script (Vue.blocks text.toList) :=
    rfl
  rw [hextract, ← hanswers]
  exact ⟨fun found => extractBlocks_eq_ok_iff, fun fault => extractBlocks_eq_error_iff⟩

/-- Two elements with the text behind them, and in all of it the beginnings of other tags. -/
def twoElements : List (Vue.Element × List Char) :=
  [(⟨"<SCRIPT".toList, " setup lang='tsx'".toList, "a </scrip".toList, "</script ".toList⟩,
      "<scrip".toList),
    (⟨"<script".toList, [], "b".toList, "</Script".toList⟩, "</p>".toList)]

/-- Reads every text as the name of a class, but for one that it refuses. -/
def namesBut (refused : String) : Extractor := fun language text =>
  if text = refused then .error (.refused language.label) else .ok [⟨text, .classDeclaration⟩]

/-- What is only the beginning of a tag ends no element and begins none. -/
theorem extract_page_twoElements :
    let text := "<p><SCRIPT setup lang='tsx'>a </scrip</script ><scrip<script>b</Script></p>"
    IsFreeOf Vue.openWord "<p>".toList ∧
    (∀ part ∈ twoElements, part.1.IsProper ∧ IsFreeOf Vue.openWord part.2) ∧
    extractWith (namesBut "c") .vue text
      = .ok [⟨"a </scrip", .classDeclaration⟩, ⟨"b", .classDeclaration⟩] ∧
    extractWith (namesBut "b") .vue text = .error (.refused "typescript") ∧
    extractWith (namesBut "a </scrip") .vue text = .error (.refused "tsx") := by
  intro text
  have hfirst : IsFreeOf Vue.openWord "<p>".toList := by decide
  have hparts : ∀ part ∈ twoElements, part.1.IsProper ∧ IsFreeOf Vue.openWord part.2 := by
    simp only [twoElements, List.forall_mem_cons, List.not_mem_nil, false_imp_iff, implies_true,
      and_true]
    exact ⟨⟨⟨by decide, by simp [isBlank], by simp, by decide,
        [' '], by decide, by simp [isBlank]⟩, by decide⟩,
      ⟨by decide, by simp, by simp, by decide,
        [], by decide, by simp⟩, by decide⟩
  have htext : text = String.ofList (Vue.page "<p>".toList twoElements) := by decide
  rw [htext]
  refine ⟨hfirst, hparts, ?_, ?_, ?_⟩
  · exact ((extract_page (namesBut "c") hfirst hparts).1 _).mpr
      ⟨[[⟨"a </scrip", .classDeclaration⟩], [⟨"b", .classDeclaration⟩]], by decide, rfl⟩
  · exact ((extract_page (namesBut "b") hfirst hparts).2 _).mpr
      ⟨[[⟨"a </scrip", .classDeclaration⟩]], [], by decide⟩
  · exact ((extract_page (namesBut "a </scrip") hfirst hparts).2 _).mpr
      ⟨[], [.ok [⟨"b", .classDeclaration⟩]], by decide⟩

end

end SpokenIndex
