import WalkieTalkie.Gateway.Markdown

/-! The markup that the renderer may write: text without angle brackets, its own tags, and links to a few
schemes. Blocks nest. Inline tags of one kind alternate, but those of two kinds may cross, and an inline
tag may come to stand in the target of a link. -/

namespace WalkieTalkie.Gateway.Markdown

open Lib.Rewriting

inductive Mark
  | strong
  | em
  | del
  | code
deriving DecidableEq

def Mark.opening : Mark → String
  | .strong => "<strong>"
  | .em => "<em>"
  | .del => "<del>"
  | .code => "<code>"

def Mark.closing : Mark → String
  | .strong => "</strong>"
  | .em => "</em>"
  | .del => "</del>"
  | .code => "</code>"

inductive Element
  | pre
  | heading (level : Fin 6)
  | table
  | thead
  | tbody
  | tr
  | th
  | td
  | blockquote
  | ul
  | ol
  | li
  | p

def Element.opening : Element → String
  | .pre => "<pre class=\"code\">"
  | .heading n =>
    "<h" ++ Nat.repr (n.val + 1) ++ " class=\"md-h md-h" ++ Nat.repr (n.val + 1) ++ "\">"
  | .table => "<table class=\"md-table\">"
  | .thead => "<thead>"
  | .tbody => "<tbody>"
  | .tr => "<tr>"
  | .th => "<th>"
  | .td => "<td>"
  | .blockquote => "<blockquote class=\"md-quote\">"
  | .ul => "<ul class=\"md-ul\">"
  | .ol => "<ol class=\"md-ol\">"
  | .li => "<li>"
  | .p => "<p>"

def Element.closing : Element → String
  | .pre => "</pre>"
  | .heading n => "</h" ++ Nat.repr (n.val + 1) ++ ">"
  | .table => "</table>"
  | .thead => "</thead>"
  | .tbody => "</tbody>"
  | .tr => "</tr>"
  | .th => "</th>"
  | .td => "</td>"
  | .blockquote => "</blockquote>"
  | .ul => "</ul>"
  | .ol => "</ol>"
  | .li => "</li>"
  | .p => "</p>"

/-- What the target of a link begins with, unless the target is `#`. -/
def Scheme : Type := { s : Line // s.map Char.toLower ∈ schemes }

inductive Token
  | text (c : Char)
  | openMark (m : Mark)
  | closeMark (m : Mark)
  | href (s : Scheme)
  | hrefEnd
  | nowhere
  | anchorEnd
  | start (e : Element)
  | stop (e : Element)
  | rule

namespace Token

def render : Token → Line
  | text c => [c]
  | openMark m => m.opening.toList
  | closeMark m => m.closing.toList
  | href s => "<a href=\"".toList ++ s.val
  | hrefEnd => "\" target=\"_blank\" rel=\"noreferrer\">".toList
  | nowhere => "<a href=\"#\" target=\"_blank\" rel=\"noreferrer\">".toList
  | anchorEnd => "</a>".toList
  | start e => e.opening.toList
  | stop e => e.closing.toList
  | rule => "<hr class=\"md-hr\">".toList

def isInline : Token → Bool
  | start _ => false
  | stop _ => false
  | rule => false
  | _ => true

def isText : Token → Bool
  | text _ => true
  | _ => false

def ofMark (m : Mark) : Token → Bool
  | openMark m' => m' = m
  | closeMark m' => m' = m
  | _ => false

def ofLink : Token → Bool
  | href _ => true
  | hrefEnd => true
  | nowhere => true
  | anchorEnd => true
  | _ => false

end Token

open Token

def write (ts : List Token) : Line := ts.flatMap Token.render

def pairs (m : Mark) : ℕ → List Token
  | 0 => []
  | n + 1 => openMark m :: closeMark m :: pairs m n

def anchors : List (Option Scheme) → List Token
  | [] => []
  | some s :: ss => href s :: hrefEnd :: anchorEnd :: anchors ss
  | none :: ss => nowhere :: anchorEnd :: anchors ss

structure Phrase (ts : List Token) : Prop where
  inline : ∀ t ∈ ts, t.isInline = true
  marks : ∀ m, ∃ n, ts.filter (ofMark m) = pairs m n
  links : ∃ ss, ts.filter ofLink = anchors ss

inductive Flow : List Token → Prop
  | nil : Flow []
  | phrase {ts : List Token} (h : Phrase ts) : Flow ts
  | rule : Flow [.rule]
  | append {ts us : List Token} (h : Flow ts) (h' : Flow us) : Flow (ts ++ us)
  | element {ts : List Token} (e : Element) (h : Flow ts) : Flow (start e :: (ts ++ [stop e]))

/-- No angle bracket, and no double quote but from the source. -/
def Plain (quotes : Prop) (c : Char) : Prop := c ≠ '<' ∧ c ≠ '>' ∧ (c = doubleQuote → quotes)

def PlainTexts (quotes : Prop) (ts : List Token) : Prop := ∀ c, text c ∈ ts → Plain quotes c

/-- The delimiters that are rewritten when there are tags already. -/
def IsDelimiter (c : Char) : Prop := c ∈ ['*', '~', nul]

variable {quotes : Prop} {ts us : List Token}

def clean (s : Line) : Bool := s.all fun c => c ≠ '*' && c ≠ '~' && c ≠ nul

lemma not_mem_of_clean {s : Line} (h : clean s = true) {c : Char} (hc : IsDelimiter c) : c ∉ s := by
  intro hmem
  have hne := List.all_eq_true.mp h c hmem
  simp only [Bool.and_eq_true, decide_eq_true_eq] at hne
  simp only [IsDelimiter, List.mem_cons, List.not_mem_nil, or_false] at hc
  rcases hc with rfl | rfl | rfl
  · exact hne.1.1 rfl
  · exact hne.1.2 rfl
  · exact hne.2 rfl

lemma mark_clean (m : Mark) :
    clean m.opening.toList = true ∧ clean m.closing.toList = true := by
  cases m <;> decide

lemma element_clean (e : Element) :
    clean e.opening.toList = true ∧ clean e.closing.toList = true := by
  cases e with
  | heading n =>
    revert n
    decide
  | _ => decide

lemma toLower_delimiter {c : Char} (hc : IsDelimiter c) : c.toLower = c := by
  simp only [IsDelimiter, List.mem_cons, List.not_mem_nil, or_false] at hc
  rcases hc with rfl | rfl | rfl
  · rfl
  · rfl
  · rfl

lemma scheme_clean (s : Scheme) {c : Char} (hc : IsDelimiter c) : c ∉ s.val := by
  intro hs
  have hlower : ∀ l ∈ schemes, clean l = true := by decide
  refine not_mem_of_clean (hlower _ s.property) hc ?_
  rw [← toLower_delimiter hc]
  exact List.mem_map_of_mem hs

/-- A delimiter stands in no tag. -/
lemma text_of_delimiter {c : Char} (hc : IsDelimiter c) {t : Token} (h : c ∈ t.render) :
    t = text c := by
  have hclean : clean t.render = true → t = text c := fun hc' => absurd h (not_mem_of_clean hc' hc)
  cases t with
  | text d => rw [List.mem_singleton.mp h]
  | openMark m => exact hclean (mark_clean m).1
  | closeMark m => exact hclean (mark_clean m).2
  | href s =>
    have hlit : clean "<a href=\"".toList = true := by decide
    rcases List.mem_append.mp h with hlit' | hs
    · exact absurd hlit' (not_mem_of_clean hlit hc)
    · exact absurd hs (scheme_clean s hc)
  | start e => exact hclean (element_clean e).1
  | stop e => exact hclean (element_clean e).2
  | hrefEnd | nowhere | anchorEnd | rule => exact hclean (by decide)

lemma alone_of_delimiter {c : Char} (hc : IsDelimiter c) : Alone Token.render c := by
  intro t ht
  rw [text_of_delimiter hc ht]
  rfl

lemma render_head (t : Token) : t.isText = true ∨ t.render.head? = some '<' ∨
    t.render.head? = some doubleQuote := by
  cases t with
  | text c => exact Or.inl rfl
  | openMark m | closeMark m => cases m <;> exact Or.inr (Or.inl rfl)
  | href s => exact Or.inr (Or.inl rfl)
  | hrefEnd => exact Or.inr (Or.inr rfl)
  | start e | stop e =>
    refine Or.inr (Or.inl ?_)
    cases e with
    | heading n =>
      revert n
      decide
    | _ => rfl
  | _ => exact Or.inr (Or.inl rfl)

lemma render_ne_nil (t : Token) : t.render ≠ [] := by
  intro hnil
  rcases render_head t with h | h | h
  · cases t with
    | text c => exact List.cons_ne_nil _ _ hnil
    | _ => cases h
  · rw [hnil] at h
    cases h
  · rw [hnil] at h
    cases h

lemma texts_of_delimiters {ds : List Token} (h : ∀ c ∈ ds.flatMap Token.render, IsDelimiter c) :
    ∀ t ∈ ds, t.isText = true := by
  intro t ht
  cases hr : t.render with
  | nil => exact absurd hr (render_ne_nil t)
  | cons c rest =>
    have hc : c ∈ t.render := hr ▸ List.mem_cons_self ..
    rw [text_of_delimiter (h c (List.mem_flatMap_of_mem ht hc)) hc]
    rfl

lemma texts_of_digits {ds : List Token} (h : ∀ c ∈ ds.flatMap Token.render, c.isDigit = true) :
    ∀ t ∈ ds, t.isText = true := by
  intro t ht
  have hmem : ∀ c ∈ t.render, c.isDigit = true := fun c hc => h c (List.mem_flatMap_of_mem ht hc)
  rcases render_head t with htext | hr | hr
  · exact htext
  · exact absurd (hmem _ (List.mem_of_head? hr)) (by decide)
  · exact absurd (hmem _ (List.mem_of_head? hr)) (by decide)

lemma isInline_of_isText {t : Token} (h : t.isText = true) : t.isInline = true := by
  cases t with
  | text c => rfl
  | _ => cases h

/-- A stretch of tokens gets the tags of a mark, in place of delimiters or of nothing but text. -/
def Marked (quotes : Prop) (m : Mark) (a out : List Token) : Prop :=
  ∃ run, out = openMark m :: (run ++ [closeMark m]) ∧
    run.filter (fun t => !t.isText) = a.filter (fun t => !t.isText) ∧
    ∀ c, text c ∈ run → text c ∈ a ∨ Plain quotes c

lemma filter_eq_of_markup {p : Token → Bool} (hp : ∀ c, p (text c) = false) {ts us : List Token}
    (h : ts.filter (fun t => !t.isText) = us.filter (fun t => !t.isText)) :
    ts.filter p = us.filter p := by
  have hmarkup : ∀ ts : List Token, ts.filter p = (ts.filter (fun t => !t.isText)).filter p := by
    intro ts
    rw [List.filter_filter]
    refine List.filter_congr fun t _ => ?_
    cases t with
    | text c => rw [hp c]; rfl
    | _ => simp [Token.isText]
  rw [hmarkup ts, hmarkup us, h]

section

variable {m : Mark} (h : Replaced (Marked quotes m) ts us)

include h

lemma marked_texts (hts : PlainTexts quotes ts) : PlainTexts quotes us := by
  induction h with
  | nil => exact hts
  | keep t _ ih =>
    intro c hc
    rcases List.mem_cons.mp hc with rfl | hc
    · exact hts c (List.mem_cons_self ..)
    · exact ih (fun d hd => hts d (List.mem_cons_of_mem _ hd)) c hc
  | rewrite hrw _ ih =>
    obtain ⟨run, rfl, _, htexts⟩ := hrw
    intro c hc
    rcases List.mem_append.mp hc with hc | hc
    · have hrun : text c ∈ run := by simpa using hc
      exact (htexts c hrun).elim (fun ha => hts c (List.mem_append_left _ ha)) id
    · exact ih (fun d hd => hts d (List.mem_append_right _ hd)) c hc

lemma marked_inline (hts : ∀ t ∈ ts, t.isInline = true) : ∀ t ∈ us, t.isInline = true := by
  induction h with
  | nil => exact hts
  | keep t _ ih =>
    obtain ⟨ht, hts'⟩ := List.forall_mem_cons.mp hts
    exact List.forall_mem_cons.mpr ⟨ht, ih hts'⟩
  | @rewrite a b ts us hrw _ ih =>
    obtain ⟨run, rfl, hmarkup, _⟩ := hrw
    obtain ⟨ha, hts'⟩ := List.forall_mem_append.mp hts
    refine List.forall_mem_append.mpr ⟨?_, ih hts'⟩
    refine List.forall_mem_cons.mpr ⟨rfl, List.forall_mem_append.mpr ⟨fun t ht => ?_, ?_⟩⟩
    · cases htext : t.isText with
      | true => exact isInline_of_isText htext
      | false =>
        have hmem : t ∈ run.filter fun t => !t.isText :=
          List.mem_filter.mpr ⟨ht, by rw [htext]; rfl⟩
        rw [hmarkup] at hmem
        exact ha _ (List.mem_filter.mp hmem).1
    · exact List.forall_mem_singleton.mpr rfl

lemma marked_others {p : Token → Bool} (hp : ∀ c, p (text c) = false)
    (hopen : p (openMark m) = false) (hclose : p (closeMark m) = false) :
    us.filter p = ts.filter p := by
  induction h with
  | nil => rfl
  | keep t _ ih => rw [List.filter_cons, List.filter_cons, ih]
  | rewrite hrw _ ih =>
    obtain ⟨run, rfl, hmarkup, _⟩ := hrw
    rw [List.filter_append, List.filter_append, ih, ← filter_eq_of_markup hp hmarkup,
      List.filter_cons_of_neg (by simp [hopen]), List.filter_append,
      List.filter_cons_of_neg (by simp [hclose]), List.filter_nil, List.append_nil]

lemma marked_pairs (hts : ts.filter (ofMark m) = []) : ∃ n, us.filter (ofMark m) = pairs m n := by
  induction h with
  | nil => exact ⟨0, rfl⟩
  | keep t _ ih =>
    rw [List.filter_cons] at hts ⊢
    split at hts
    · cases hts
    · next ht =>
      rw [if_neg ht]
      exact ih hts
  | rewrite hrw _ ih =>
    obtain ⟨run, rfl, hmarkup, _⟩ := hrw
    rw [List.filter_append, List.append_eq_nil_iff] at hts
    obtain ⟨n, hn⟩ := ih hts.2
    have hrun : run.filter (ofMark m) = [] := (filter_eq_of_markup (fun _ => rfl) hmarkup).trans hts.1
    refine ⟨n + 1, ?_⟩
    rw [List.filter_append, hn, List.filter_cons_of_pos (by simp [ofMark]), List.filter_append, hrun,
      List.filter_cons_of_pos (by simp [ofMark])]
    rfl

end

lemma Phrase.marked {m : Mark} (hts : Phrase ts) (hm : ts.filter (ofMark m) = [])
    (h : Replaced (Marked quotes m) ts us) :
    Phrase us ∧ ∀ m', m' ≠ m → us.filter (ofMark m') = ts.filter (ofMark m') := by
  have hothers : ∀ m', m' ≠ m → us.filter (ofMark m') = ts.filter (ofMark m') := fun m' hne =>
    marked_others h (fun _ => rfl) (decide_eq_false hne.symm) (decide_eq_false hne.symm)
  refine ⟨⟨marked_inline h hts.inline, fun m' => ?_, ?_⟩, hothers⟩
  · by_cases hsame : m' = m
    · exact hsame ▸ marked_pairs h hm
    · rw [hothers m' hsame]
      exact hts.marks m'
  · rw [marked_others h (fun _ => rfl) rfl rfl]
    exact hts.links

/-- A pass that puts a run between two delimiters into the tags of a mark. -/
lemma exists_marked {opening closing : Line} {inner : Char → Bool} {m : Mark} {g : Line → Line}
    (hopen : opening ≠ []) (hclose : closing ≠ []) (hopen' : ∀ c ∈ opening, IsDelimiter c)
    (hclose' : ∀ c ∈ closing, IsDelimiter c)
    (hg : ∀ run, (∀ c ∈ write run, inner c = true) → ∃ run', g (write run) =
        wrap m.opening m.closing (write run') ∧
      run'.filter (fun t => !t.isText) = run.filter (fun t => !t.isText) ∧
      ∀ c, text c ∈ run' → text c ∈ run ∨ Plain quotes c) (ts : List Token) :
    ∃ us, Replaced (Marked quotes m) ts us ∧
      write us = replaceAll (delimited opening inner closing) g (write ts) := by
  refine exists_replaced_delimited render_ne_nil hopen hclose
    (fun c hc => alone_of_delimiter (hopen' c hc)) (fun c hc => alone_of_delimiter (hclose' c hc))
    (fun ds run es hds hes hinner => ?_) ts
  obtain ⟨run', hrun', hmarkup, htexts⟩ := hg run hinner
  have hnone : ∀ ds : List Token, (∀ c ∈ ds.flatMap Token.render, IsDelimiter c) →
      ds.filter (fun t => !t.isText) = [] := by
    intro ds hds
    refine List.filter_eq_nil_iff.mpr fun t ht => ?_
    rw [texts_of_delimiters hds t ht]
    decide
  refine ⟨openMark m :: (run' ++ [closeMark m]), ⟨run', rfl, ?_, fun c hc => ?_⟩, ?_⟩
  · rw [List.filter_append, List.filter_append, hnone ds (hds ▸ hopen'), hnone es (hes ▸ hclose'),
      List.nil_append, List.append_nil, hmarkup]
  · refine (htexts c hc).imp_left fun hmem => ?_
    exact List.mem_append_right _ (List.mem_append_left _ hmem)
  · have hwrite : g (run.flatMap Token.render) = _ := hrun'
    rw [hwrite, wrap, write, List.flatMap_cons, List.flatMap_append, List.flatMap_singleton]
    exact (List.append_assoc ..).symm

end WalkieTalkie.Gateway.Markdown
