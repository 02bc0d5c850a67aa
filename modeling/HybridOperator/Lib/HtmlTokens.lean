/-
  How an HTML string is read: the tokenizer of the HTML standard from its data state, and the
  template literals whose substitutions are strings.

  The state machine is the standard's, one character after the other, with its parse errors left
  out. Bogus comments and doctypes, which all end at the next `>`, are one kind of token, and
  `</>`, which stands for no token, is kept as `missingEndTagName`. Character references are
  text. That the tree builder switches the tokenizer to raw text after some start tags (a script,
  a textarea) is left out: it concerns what follows such a tag.

  Proved: `lexemes_render_iff`, the tokenizer gives back the literals of a template with each
  substitution as text exactly when every substitution is `Plain`.
-/
import Mathlib.Data.List.Chain
import HybridOperator.Lib.Reactive

namespace HybridOperator.Lib.Html

/-! ## Tokens and states -/

/-- A tag with its attributes, the latest first. -/
structure Tag where
  isEnd : Bool
  name : List Char
  attributes : List (List Char × List Char)
  selfClosing : Bool
deriving DecidableEq

inductive Token where
  | tag (t : Tag)
  | comment (data : List Char)
  | declaration (data : List Char)
  | missingEndTagName
deriving DecidableEq

inductive Lexeme where
  | text (c : Char)
  | markup (token : Token)
deriving DecidableEq

inductive TagState where
  | tagName
  | beforeAttributeName
  | attributeName
  | afterAttributeName
  | beforeAttributeValue
  | attributeValueDoubleQuoted
  | attributeValueSingleQuoted
  | attributeValueUnquoted
  | afterAttributeValueQuoted
  | selfClosingStartTag
deriving DecidableEq

inductive CommentState where
  | commentStart
  | commentStartDash
  | comment
  | commentEndDash
  | commentEnd
  | commentEndBang
deriving DecidableEq

/-- The states in which markup is being read, with what was read of it. -/
inductive Markup where
  | tag (st : TagState) (t : Tag)
  | markupDeclarationOpen
  | markupDeclarationDash
  | declaration (data : List Char)
  | comment (st : CommentState) (data : List Char)
deriving DecidableEq

inductive State where
  | data
  | tagOpen
  | endTagOpen
  | markup (m : Markup)
deriving DecidableEq

/-! ## The tokenizer -/

def isSpace (c : Char) : Bool := c = '\t' || c = '\n' || c = '\x0c' || c = '\r' || c = ' '

def Tag.start (isEnd : Bool) (c : Char) : Tag := ⟨isEnd, [c.toLower], [], false⟩

def Tag.pushAttribute (t : Tag) (c : Char) : Tag :=
  { t with attributes := ([c.toLower], []) :: t.attributes }

def Tag.pushName (t : Tag) (c : Char) : Tag :=
  match t.attributes with
  | [] => t
  | (name, value) :: rest => { t with attributes := (name ++ [c.toLower], value) :: rest }

def Tag.pushValue (t : Tag) (c : Char) : Tag :=
  match t.attributes with
  | [] => t
  | (name, value) :: rest => { t with attributes := (name, value ++ [c]) :: rest }

/-- Where a name ends: at a space, at `/` and at `>`. -/
def atBoundary (t : Tag) (c : Char) (space : TagState) (other : Markup) : Markup ⊕ Token :=
  if isSpace c then .inl (.tag space t)
  else if c = '/' then .inl (.tag .selfClosingStartTag t)
  else if c = '>' then .inr (.tag t)
  else .inl other

def TagState.step (st : TagState) (t : Tag) (c : Char) : Markup ⊕ Token :=
  match st with
  | .tagName =>
      atBoundary t c .beforeAttributeName (.tag .tagName { t with name := t.name ++ [c.toLower] })
  | .beforeAttributeName | .afterAttributeValueQuoted =>
      atBoundary t c .beforeAttributeName (.tag .attributeName (t.pushAttribute c))
  | .attributeName =>
      atBoundary t c .afterAttributeName
        (if c = '=' then .tag .beforeAttributeValue t else .tag .attributeName (t.pushName c))
  | .afterAttributeName =>
      atBoundary t c .afterAttributeName
        (if c = '=' then .tag .beforeAttributeValue t
        else .tag .attributeName (t.pushAttribute c))
  | .beforeAttributeValue =>
      if isSpace c then .inl (.tag .beforeAttributeValue t)
      else if c = '"' then .inl (.tag .attributeValueDoubleQuoted t)
      else if c = '\'' then .inl (.tag .attributeValueSingleQuoted t)
      else if c = '>' then .inr (.tag t)
      else .inl (.tag .attributeValueUnquoted (t.pushValue c))
  | .attributeValueDoubleQuoted =>
      if c = '"' then .inl (.tag .afterAttributeValueQuoted t)
      else .inl (.tag .attributeValueDoubleQuoted (t.pushValue c))
  | .attributeValueSingleQuoted =>
      if c = '\'' then .inl (.tag .afterAttributeValueQuoted t)
      else .inl (.tag .attributeValueSingleQuoted (t.pushValue c))
  | .attributeValueUnquoted =>
      if isSpace c then .inl (.tag .beforeAttributeName t)
      else if c = '>' then .inr (.tag t)
      else .inl (.tag .attributeValueUnquoted (t.pushValue c))
  | .selfClosingStartTag =>
      if c = '>' then .inr (.tag { t with selfClosing := true })
      else atBoundary t c .beforeAttributeName (.tag .attributeName (t.pushAttribute c))

def CommentState.step (st : CommentState) (data : List Char) (c : Char) : Markup ⊕ Token :=
  match st with
  | .commentStart =>
      if c = '-' then .inl (.comment .commentStartDash data)
      else if c = '>' then .inr (.comment data)
      else .inl (.comment .comment (data ++ [c]))
  | .commentStartDash =>
      if c = '-' then .inl (.comment .commentEnd data)
      else if c = '>' then .inr (.comment data)
      else .inl (.comment .comment (data ++ ['-', c]))
  | .comment =>
      if c = '-' then .inl (.comment .commentEndDash data)
      else .inl (.comment .comment (data ++ [c]))
  | .commentEndDash =>
      if c = '-' then .inl (.comment .commentEnd data)
      else .inl (.comment .comment (data ++ ['-', c]))
  | .commentEnd =>
      if c = '>' then .inr (.comment data)
      else if c = '!' then .inl (.comment .commentEndBang data)
      else if c = '-' then .inl (.comment .commentEnd (data ++ ['-']))
      else .inl (.comment .comment (data ++ ['-', '-', c]))
  | .commentEndBang =>
      if c = '-' then .inl (.comment .commentEndDash (data ++ ['-', '-', '!']))
      else if c = '>' then .inr (.comment data)
      else .inl (.comment .comment (data ++ ['-', '-', '!', c]))

def declarationStep (data : List Char) (c : Char) : Markup ⊕ Token :=
  if c = '>' then .inr (.declaration data) else .inl (.declaration (data ++ [c]))

/-- The markup goes on or is complete. -/
def Markup.step (m : Markup) (c : Char) : Markup ⊕ Token :=
  match m with
  | .tag st t => st.step t c
  | .markupDeclarationOpen =>
      if c = '-' then .inl .markupDeclarationDash else declarationStep [] c
  | .markupDeclarationDash =>
      if c = '-' then .inl (.comment .commentStart []) else declarationStep ['-'] c
  | .declaration data => declarationStep data c
  | .comment st data => st.step data c

def dataStep (c : Char) : State × List Lexeme :=
  if c = '<' then (.tagOpen, []) else (.data, [.text c])

def step : State → Char → State × List Lexeme
  | .data, c => dataStep c
  | .tagOpen, c =>
      if c.isAlpha then (.markup (.tag .tagName (.start false c)), [])
      else if c = '!' then (.markup .markupDeclarationOpen, [])
      else if c = '/' then (.endTagOpen, [])
      else if c = '?' then (.markup (.declaration ['?']), [])
      else ((dataStep c).1, .text '<' :: (dataStep c).2)
  | .endTagOpen, c =>
      if c.isAlpha then (.markup (.tag .tagName (.start true c)), [])
      else if c = '>' then (.data, [.markup .missingEndTagName])
      else (.markup (.declaration [c]), [])
  | .markup m, c =>
      match m.step c with
      | .inl m' => (.markup m', [])
      | .inr token => (.data, [.markup token])

/-- What the end of the input completes: a comment, but no tag. -/
def State.finish : State → List Lexeme
  | .data => []
  | .tagOpen => [.text '<']
  | .endTagOpen => [.text '<', .text '/']
  | .markup (.tag _ _) => []
  | .markup .markupDeclarationOpen => [.markup (.declaration [])]
  | .markup .markupDeclarationDash => [.markup (.declaration ['-'])]
  | .markup (.declaration read) => [.markup (.declaration read)]
  | .markup (.comment _ read) => [.markup (.comment read)]

def lexFrom (st : State) (s : List Char) : List Lexeme :=
  (Reactive.run step st s).2.flatten ++ (Reactive.run step st s).1.finish

/-- The tags and the text of an HTML string. -/
def lexemes (s : List Char) : List Lexeme := lexFrom .data s

def Lexeme.tag? : Lexeme → Option Tag
  | .markup (.tag t) => some t
  | _ => none

def tags (ls : List Lexeme) : List Tag := ls.filterMap Lexeme.tag?

theorem step_data (c : Char) : step .data c = dataStep c := rfl

theorem step_tagOpen (c : Char) :
    step .tagOpen c =
      if c.isAlpha then (.markup (.tag .tagName (.start false c)), [])
      else if c = '!' then (.markup .markupDeclarationOpen, [])
      else if c = '/' then (.endTagOpen, [])
      else if c = '?' then (.markup (.declaration ['?']), [])
      else ((dataStep c).1, .text '<' :: (dataStep c).2) := rfl

theorem step_endTagOpen (c : Char) :
    step .endTagOpen c =
      if c.isAlpha then (.markup (.tag .tagName (.start true c)), [])
      else if c = '>' then (.data, [.markup .missingEndTagName])
      else (.markup (.declaration [c]), []) := rfl

theorem step_markup (m : Markup) (c : Char) :
    step (.markup m) c =
      (m.step c).elim (fun m' => (.markup m', [])) fun token => (.data, [.markup token]) := by
  rw [step]
  cases m.step c with
  | inl m' => rfl
  | inr token => rfl

@[simp] theorem lexFrom_nil (st : State) : lexFrom st [] = st.finish := rfl

theorem lexFrom_cons (st : State) (c : Char) (s : List Char) :
    lexFrom st (c :: s) = (step st c).2 ++ lexFrom (step st c).1 s := by
  rw [lexFrom, Reactive.run_cons, List.flatten_cons, List.append_assoc]
  rfl

theorem lexFrom_append (st : State) (s s' : List Char) :
    lexFrom st (s ++ s') =
      (Reactive.run step st s).2.flatten ++ lexFrom (Reactive.run step st s).1 s' := by
  rw [lexFrom, Reactive.run_append, List.flatten_append, List.append_assoc]
  rfl

theorem tags_append (ls ls' : List Lexeme) : tags (ls ++ ls') = tags ls ++ tags ls' :=
  List.filterMap_append

theorem tags_map_text (s : List Char) : tags (s.map .text) = [] := by
  induction s with
  | nil => rfl
  | cons c cs ih => exact ih

/-! ## Text and markup -/

/-- The characters that make a `<` before them the start of markup. -/
def Opens (c : Char) : Prop := c.isAlpha = true ∨ c = '!' ∨ c = '/' ∨ c = '?'

instance (c : Char) : Decidable (Opens c) := inferInstanceAs (Decidable (_ ∨ _))

/-- No `<` is directly followed by a letter, `!`, `/` or `?`. -/
def Plain (s : List Char) : Prop := s.IsChain fun a b => ¬ (a = '<' ∧ Opens b)

instance (s : List Char) : Decidable (Plain s) := inferInstanceAs (Decidable (s.IsChain _))

theorem not_opens_lt : ¬ Opens '<' := by decide

theorem lexemes_text {c : Char} (hc : c ≠ '<') (s : List Char) :
    lexemes (c :: s) = .text c :: lexemes s := by
  rw [lexemes, lexFrom_cons, step_data, dataStep, if_neg hc]
  rfl

/-- A `<` that opens nothing is text. -/
theorem lexemes_lt {d : Char} (hd : ¬ Opens d) (s : List Char) :
    lexemes ('<' :: d :: s) = .text '<' :: lexemes (d :: s) := by
  have hstep : step .tagOpen d = ((dataStep d).1, .text '<' :: (dataStep d).2) := by
    unfold Opens at hd
    push Not at hd
    obtain ⟨halpha, hbang, hslash, hquery⟩ := hd
    rw [step_tagOpen, if_neg halpha, if_neg hbang, if_neg hslash, if_neg hquery]
  show lexFrom .tagOpen (d :: s) = .text '<' :: lexFrom .data (d :: s)
  rw [lexFrom_cons, lexFrom_cons, hstep]
  rfl

/-- The next lexeme, if there is one, is no text. -/
def NoTextFirst (ls : List Lexeme) : Prop := ∀ c ls', ls ≠ .text c :: ls'

theorem noTextFirst_nil : NoTextFirst [] := fun _ _ h => by cases h

theorem noTextFirst_markup (token : Token) (ls : List Lexeme) :
    NoTextFirst (.markup token :: ls) := fun _ _ h => by cases h

/-- Markup that is being read comes before any text. -/
theorem noTextFirst_of_markup (m : Markup) (s : List Char) :
    NoTextFirst (lexFrom (.markup m) s) := by
  induction s generalizing m with
  | nil =>
    rw [lexFrom_nil]
    cases m with
    | tag st t => exact noTextFirst_nil
    | markupDeclarationOpen => exact noTextFirst_markup _ _
    | markupDeclarationDash => exact noTextFirst_markup _ _
    | declaration data => exact noTextFirst_markup _ _
    | comment st data => exact noTextFirst_markup _ _
  | cons c cs ih =>
    rw [lexFrom_cons, step_markup]
    cases m.step c with
    | inl m' => exact ih m'
    | inr token => exact noTextFirst_markup _ _

theorem noTextFirst_of_endTagOpen (c : Char) (s : List Char) :
    NoTextFirst (lexFrom .endTagOpen (c :: s)) := by
  rw [lexFrom_cons, step_endTagOpen]
  split
  · exact noTextFirst_of_markup _ _
  · split
    · exact noTextFirst_markup _ _
    · exact noTextFirst_of_markup _ _

/-- A `<` that opens markup is no text, when something follows what it opens. -/
theorem noTextFirst_of_opens {d : Char} (hd : Opens d) {s : List Char} (hs : s ≠ []) :
    NoTextFirst (lexemes ('<' :: d :: s)) := by
  obtain ⟨e, s', rfl⟩ := List.exists_cons_of_ne_nil hs
  show NoTextFirst (lexFrom .tagOpen (d :: e :: s'))
  rw [lexFrom_cons, step_tagOpen]
  by_cases halpha : d.isAlpha = true
  · rw [if_pos halpha]
    exact noTextFirst_of_markup _ _
  · rw [if_neg halpha]
    obtain rfl | rfl | rfl := hd.resolve_left halpha
    · exact noTextFirst_of_markup _ _
    · exact noTextFirst_of_endTagOpen _ _
    · exact noTextFirst_of_markup _ _

/-! ## Template literals -/

/-- A part of a template literal: its own characters, or the string put in. -/
inductive Piece where
  | literal (chars : List Char)
  | substitution (chars : List Char)
deriving DecidableEq

def Piece.chars : Piece → List Char
  | .literal s => s
  | .substitution s => s

def render (pieces : List Piece) : List Char := pieces.flatMap Piece.chars

theorem render_nil : render [] = [] := by rw [render, List.flatMap_nil]

theorem render_literal (s : List Char) (ps : List Piece) :
    render (.literal s :: ps) = s ++ render ps := by
  rw [render, List.flatMap_cons, Piece.chars, render]

theorem render_substitution (s : List Char) (ps : List Piece) :
    render (.substitution s :: ps) = s ++ render ps := by
  rw [render, List.flatMap_cons, Piece.chars, render]

/-- What the piece is to be read as. -/
def Piece.meaning : Piece → List Lexeme
  | .literal s => lexemes s
  | .substitution s => s.map .text

def meaning (pieces : List Piece) : List Lexeme := pieces.flatMap Piece.meaning

/-- The characters leave the tokenizer where they found it. -/
def Closed (s : List Char) : Prop := (Reactive.run step .data s).1 = .data

instance (s : List Char) : Decidable (Closed s) := inferInstanceAs (Decidable (_ = _))

-- evaluating `toList` of a string literal takes the kernel long, its characters do not
theorem closed_ofList {cs : List Char} (h : Closed cs) : Closed (String.ofList cs).toList := by
  rwa [String.toList_ofList]

theorem head_ofList {cs : List Char} {c : Char} (h : cs.head? = some c) :
    (String.ofList cs).toList.head? = some c := by
  rwa [String.toList_ofList]

theorem closed_append {s s' : List Char} (h : Closed s) (h' : Closed s') : Closed (s ++ s') := by
  unfold Closed at h ⊢
  rw [Reactive.run_append, h]
  exact h'

/-- The substitutions stand where text stands: between literals, before a `<`. -/
inductive InText : List Piece → Prop where
  | nil : InText []
  | literal {s : List Char} {rest : List Piece} (closed : Closed s) (h : InText rest) :
      InText (.literal s :: rest)
  | substitution (s : List Char) {s' : List Char} {rest : List Piece}
      (lt : s'.head? = some '<') (closed : Closed s') (h : InText rest) :
      InText (.substitution s :: .literal s' :: rest)

theorem InText.append {ps qs : List Piece} (hps : InText ps) (hqs : InText qs) :
    InText (ps ++ qs) := by
  induction hps with
  | nil => exact hqs
  | literal closed _ ih => exact .literal closed ih
  | substitution s lt closed _ ih => exact .substitution s lt closed ih

theorem InText.flatMap {α : Type} {f : α → List Piece} (h : ∀ a, InText (f a)) (l : List α) :
    InText (l.flatMap f) := by
  induction l with
  | nil => exact .nil
  | cons a l ih => exact (h a).append ih

theorem lexemes_append_of_closed {s : List Char} (h : Closed s) (s' : List Char) :
    lexemes (s ++ s') = lexemes s ++ lexemes s' := by
  have hs : lexemes s = (Reactive.run step .data s).2.flatten := by
    rw [lexemes, lexFrom, h]
    exact List.append_nil _
  rw [hs, lexemes, lexFrom_append, h]
  rfl

/-- A string before a `<` is read as text exactly when it is plain. -/
theorem lexemes_append_iff (s s' : List Char) (ls : List Lexeme) :
    lexemes (s ++ '<' :: s') = s.map .text ++ ls ↔ Plain s ∧ lexemes ('<' :: s') = ls := by
  induction s with
  | nil => exact (and_iff_right List.IsChain.nil).symm
  | cons c cs ih =>
    by_cases hc : c = '<'
    · subst hc
      cases cs with
      | nil =>
        have hplain : Plain ['<'] := List.IsChain.singleton _
        have hlex := lexemes_lt not_opens_lt s'
        rw [and_iff_right hplain]
        show lexemes ('<' :: '<' :: s') = .text '<' :: ls ↔ _
        rw [hlex, List.cons.injEq, and_iff_right rfl]
      | cons d ds =>
        by_cases hd : Opens d
        · refine iff_of_false ?_ fun h => (List.isChain_cons_cons.mp h.1).1 ⟨rfl, hd⟩
          exact noTextFirst_of_opens hd (by simp) _ _
        · have hplain : Plain ('<' :: d :: ds) ↔ Plain (d :: ds) :=
            List.isChain_cons_cons.trans (and_iff_right fun h => hd h.2)
          have hlex := lexemes_lt hd (ds ++ '<' :: s')
          rw [hplain, ← ih]
          show lexemes ('<' :: d :: (ds ++ '<' :: s')) = .text '<' :: (_ ++ ls) ↔ _
          rw [hlex, List.cons.injEq, and_iff_right rfl]
          exact Iff.rfl
    · have hplain : Plain (c :: cs) ↔ Plain cs := by
        cases cs with
        | nil => exact iff_of_true (List.IsChain.singleton _) List.IsChain.nil
        | cons d ds => exact List.isChain_cons_cons.trans (and_iff_right fun h => hc h.1)
      have hlex := lexemes_text hc (cs ++ '<' :: s')
      rw [hplain, ← ih]
      show lexemes (c :: (cs ++ '<' :: s')) = .text c :: (_ ++ ls) ↔ _
      rw [hlex, List.cons.injEq, and_iff_right rfl]

/-- **The substitutions are read as text exactly when they are plain.** -/
theorem lexemes_render_iff {pieces : List Piece} (h : InText pieces) :
    lexemes (render pieces) = meaning pieces ↔
      ∀ s, Piece.substitution s ∈ pieces → Plain s := by
  induction h with
  | nil => exact iff_of_true rfl fun s hs => absurd hs List.not_mem_nil
  | literal closed _ ih =>
    rw [render, meaning, List.flatMap_cons, List.flatMap_cons, Piece.chars, Piece.meaning,
      lexemes_append_of_closed closed, List.append_cancel_left_eq]
    refine ih.trans ?_
    simp only [List.mem_cons, reduceCtorEq, false_or]
  | @substitution s s' rest lt closed _ ih =>
    obtain ⟨s', rfl⟩ := List.head?_eq_some_iff.mp lt
    have htail : lexemes ('<' :: s' ++ render rest) = lexemes ('<' :: s') ++ meaning rest ↔
        ∀ t, Piece.substitution t ∈ rest → Plain t := by
      rw [lexemes_append_of_closed closed, List.append_cancel_left_eq]
      exact ih
    show lexemes (s ++ ('<' :: s' ++ render rest)) =
      s.map .text ++ (lexemes ('<' :: s') ++ meaning rest) ↔ _
    rw [List.cons_append, lexemes_append_iff, ← List.cons_append, htail]
    simp only [List.mem_cons, reduceCtorEq, false_or, Piece.substitution.injEq, forall_eq_or_imp]

/-! ## The tags of a template -/

def Piece.literal? : Piece → Option (List Char)
  | .literal s => some s
  | .substitution _ => none

/-- The tags that a template is to have are those of its literals. -/
theorem tags_meaning (pieces : List Piece) :
    tags (meaning pieces) =
      (pieces.filterMap Piece.literal?).flatMap fun s => tags (lexemes s) := by
  induction pieces with
  | nil => rfl
  | cons p ps ih =>
    rw [meaning, List.flatMap_cons, tags_append, ← meaning, ih]
    cases p with
    | literal s => rfl
    | substitution s =>
      rw [Piece.meaning, tags_map_text]
      rfl

end HybridOperator.Lib.Html
