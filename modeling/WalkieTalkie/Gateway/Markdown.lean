import WalkieTalkie.Lib.Rewriting

/-! The Markdown renderer of the dashboard page. The text of a message is cut into blocks; the text of a
block is escaped and then rewritten, one kind of markup after the other, on the string that has the
tags of the earlier ones in it. Code spans are taken out first and put back last. -/

namespace WalkieTalkie.Gateway.Markdown

open Lib.Rewriting

abbrev Line := List Char

def nul : Char := Char.ofNat 0
def backtick : Char := Char.ofNat 96
def doubleQuote : Char := Char.ofNat 34

/-- White space and line ends, as patterns and `trim` take them. -/
def isSpace (c : Char) : Bool :=
  let n := c.toNat
  (9 ≤ n && n ≤ 13) || n = 32 || n = 0xa0 || n = 0x1680 || (0x2000 ≤ n && n ≤ 0x200a) ||
    n = 0x2028 || n = 0x2029 || n = 0x202f || n = 0x205f || n = 0x3000 || n = 0xfeff

def isWord (c : Char) : Bool := c.isAlphanum || c = '_'

def replaceChar (c : Char) (out : String) (s : Line) : Line :=
  s.flatMap fun d => if d = c then out.toList else [d]

def mdEscape (s : Line) : Line :=
  replaceChar '>' "&gt;" (replaceChar '<' "&lt;" (replaceChar '&' "&amp;" s))

def codeSpan : Line → Option (Line × ℕ) := delimited [backtick] (fun c => c ≠ backtick) [backtick]

/-- `[label](url)` -/
def link (s : Line) : Option ((Line × Line) × ℕ) :=
  (delimited ['['] (fun c => c ≠ ']') [']', '('] s).bind fun (label, n) =>
    (delimited [] (fun c => c ≠ ')' && !isSpace c) [')'] (s.drop (n + 1))).map fun (url, k) =>
      ((label, url), n + 1 + k)

def schemes : List Line := ["http:".toList, "https:".toList, "mailto:".toList]

def safeUrl (url : Line) : Line :=
  if schemes.any fun p => (url.take p.length).map Char.toLower = p then url else ['#']

def anchor : Line × Line → Line
  | (label, url) => "<a href=\"".toList ++ safeUrl url ++
      "\" target=\"_blank\" rel=\"noreferrer\">".toList ++ label ++ "</a>".toList

def wrap (opening closing : String) (run : Line) : Line := opening.toList ++ run ++ closing.toList

def strongRun : Line → Option (Line × ℕ) := delimited ['*', '*'] (fun c => c ≠ '*') ['*', '*']

def emRun : Line → Option (Line × ℕ) :=
  delimited ['*'] (fun c => c ≠ '*' && c.toNat ≠ 10) ['*']

def delRun : Line → Option (Line × ℕ) := delimited ['~', '~'] (fun c => c ≠ '~') ['~', '~']

def placeholder : Line → Option (Line × ℕ) := delimited [nul] Char.isDigit [nul]

def decimal (digits : Line) : ℕ := digits.foldl (fun n c => 10 * n + (c.toNat - 48)) 0

def mdInline (s : Line) : Line :=
  let spans := scan codeSpan 0 s
  let code := found spans
  let s := fill (fun k _ => nul :: (Nat.repr k).toList ++ [nul]) 0 spans
  let s := replaceAll link anchor s
  let s := replaceAll strongRun (wrap "<strong>" "</strong>") s
  let s := replaceAll emRun (wrap "<em>" "</em>") s
  let s := replaceAll delRun (wrap "<del>" "</del>") s
  replaceAll placeholder
    (fun i => wrap "<code>" "</code>" ((code[decimal i]?).getD "undefined".toList)) s

def trimStart (l : Line) : Line := l.dropWhile isSpace
def trim (l : Line) : Line := (trimStart (trimStart l).reverse).reverse
def isBlank (l : Line) : Bool := l.all isSpace
def startsSpace (l : Line) : Bool := l.head?.any isSpace

def fenceMark : Line := List.replicate 3 backtick

/-- What stands after the fence is at most a word. -/
def fence (l : Line) : Bool := fenceMark.isPrefixOf l && isBlank ((l.drop 3).dropWhile isWord)

def closesFence (l : Line) : Bool := fenceMark.isPrefixOf l && isBlank (l.drop 3)

def hashes (l : Line) : ℕ := (l.takeWhile fun c => c = '#').length

def isHash (l : Line) : Bool := 1 ≤ hashes l && hashes l ≤ 6 && startsSpace (l.drop (hashes l))

/-- A heading does not go past a line end; of these a line can have two. -/
def heading (l : Line) : Option (ℕ × Line) :=
  let title := trimStart (l.drop (hashes l))
  if isHash l && title.all fun c => c.toNat ≠ 0x2028 && c.toNat ≠ 0x2029 then some (hashes l, title)
  else none

def isRule (l : Line) : Bool :=
  match trimStart l with
  | [] => false
  | d :: rest => (d = '-' || d = '*' || d = '_') && 2 ≤ (rest.takeWhile fun c => c = d).length &&
      isBlank (rest.dropWhile fun c => c = d)

def dropBar (l : Line) : Line :=
  match trimStart l with
  | '|' :: rest => rest
  | _ => l

def row (l : Line) : List Line :=
  ((dropBar (dropBar l).reverse).reverse.splitOn '|').map trim

def dropColon : Line → Line
  | ':' :: l => l
  | l => l

def sepCell (l : Line) : Bool :=
  let l := dropColon (trimStart l)
  l.head? = some '-' && isBlank (dropColon (l.dropWhile fun c => c = '-'))

/-- A bar may stand before the first cell and after the last. -/
def tableSep (l : Line) : Bool :=
  let cells := (dropBar l).splitOn '|'
  let cells := if (cells.getLast?).any isBlank then cells.dropLast else cells
  2 ≤ cells.length && cells.all sepCell

def quoted (l : Line) : Option Line :=
  match trimStart l with
  | '>' :: rest => some (if startsSpace rest then rest.drop 1 else rest)
  | _ => none

def bullet (l : Line) : Option Line :=
  match trimStart l with
  | d :: rest => if (d = '-' || d = '*' || d = '+') && startsSpace rest then some (trimStart rest) else none
  | [] => none

def numbered (l : Line) : Option Line :=
  let l := trimStart l
  match l.dropWhile Char.isDigit with
  | '.' :: rest =>
    if (l.head?.any Char.isDigit) && startsSpace rest then some (trimStart rest) else none
  | _ => none

def blockStart (l : Line) : Bool :=
  isHash l || fenceMark.isPrefixOf l || (bullet l).isSome || (numbered l).isSome ||
    (match trimStart l with
      | '>' :: rest => startsSpace rest
      | _ => false) || isRule l

def startsTable (l : Line) (next : List Line) : Bool := l.contains '|' && next.head?.any tableSep

def inTable (l : Line) : Bool := l.contains '|' && !isBlank l

inductive Block
  | code (lines : List Line)
  | heading (level : ℕ) (title : Line)
  | rule
  | table (head : List Line) (body : List (List Line))
  | quote (lines : List Line)
  | bullets (items : List Line)
  | numbers (items : List Line)
  | blank
  | para (lines : List Line)

/-- The lines from the first on that `f` takes, and the others. -/
def spanMap (f : Line → Option Line) : List Line → List Line × List Line
  | [] => ([], [])
  | l :: ls =>
    match f l with
    | some x => (x :: (spanMap f ls).1, (spanMap f ls).2)
    | none => ([], l :: ls)

def takePara : List Line → List Line × List Line
  | [] => ([], [])
  | l :: ls =>
    if isBlank l || blockStart l || startsTable l ls then ([], l :: ls)
    else (l :: (takePara ls).1, (takePara ls).2)

/-- One turn of the loop over the lines. -/
def takeBlock (line : Line) (rest : List Line) : Block × List Line :=
  if fence line then
    (.code (rest.takeWhile fun l => !closesFence l), (rest.dropWhile fun l => !closesFence l).drop 1)
  else match heading line with
  | some (level, title) => (.heading level title, rest)
  | none =>
    if isRule line then (.rule, rest)
    else if startsTable line rest then
      (.table (row line) (((rest.drop 1).takeWhile inTable).map row), (rest.drop 1).dropWhile inTable)
    else match quoted line, bullet line, numbered line with
    | some q, _, _ => (.quote (q :: (spanMap quoted rest).1), (spanMap quoted rest).2)
    | none, some b, _ => (.bullets (b :: (spanMap bullet rest).1), (spanMap bullet rest).2)
    | none, none, some n => (.numbers (n :: (spanMap numbered rest).1), (spanMap numbered rest).2)
    | none, none, none =>
      if isBlank line then (.blank, rest)
      else (.para (line :: (takePara rest).1), (takePara rest).2)

def newline : Char := Char.ofNat 10

def joinLines (ls : List Line) : Line := [newline].intercalate ls

/-- A carriage return, with the newline after it, is a newline. -/
def unixLines : Line → Line
  | [] => []
  | c :: s =>
    if c.toNat = 13 then
      match s with
      | [] => [newline]
      | d :: s' => if d = newline then newline :: unixLines s' else newline :: unixLines (d :: s')
    else c :: unixLines s

def splitLines (s : Line) : List Line := (unixLines s).splitOn newline

def inline (s : Line) : Line := mdInline (mdEscape s)

def item (s : Line) : Line := wrap "<li>" "</li>" (inline s)

def tableRow (cells : List Line) : Line :=
  wrap "<tr>" "</tr>" (cells.flatMap fun c => wrap "<td>" "</td>" (inline c))

/-- The markup of a block; the text of a quotation is rendered already. -/
def Block.html (quotation : Line) : Block → Line
  | .code lines => wrap "<pre class=\"code\"><code>" "</code></pre>" (mdEscape (joinLines lines))
  | .heading level title =>
    wrap ("<h" ++ Nat.repr level ++ " class=\"md-h md-h" ++ Nat.repr level ++ "\">")
      ("</h" ++ Nat.repr level ++ ">") (inline title)
  | .rule => "<hr class=\"md-hr\">".toList
  | .table head body =>
    "<table class=\"md-table\"><thead><tr>".toList ++
      head.flatMap (fun c => wrap "<th>" "</th>" (inline c)) ++
      wrap "</tr></thead><tbody>" "</tbody></table>" (body.flatMap tableRow)
  | .quote _ => wrap "<blockquote class=\"md-quote\">" "</blockquote>" quotation
  | .bullets items => wrap "<ul class=\"md-ul\">" "</ul>" (items.flatMap item)
  | .numbers items => wrap "<ol class=\"md-ol\">" "</ol>" (items.flatMap item)
  | .blank => []
  | .para lines => wrap "<p>" "</p>" (inline (replaceChar newline "<br>" (joinLines lines)))

/-- With its line ends, a text of these lines is that long. -/
def size : List Line → ℕ
  | [] => 0
  | l :: ls => l.length + 1 + size ls

lemma size_append (ls ls' : List Line) : size (ls ++ ls') = size ls + size ls' := by
  induction ls with
  | nil => simp [size]
  | cons l ls ih => simp only [List.cons_append, size, ih, Nat.add_assoc]

lemma size_suffix {ls ls' : List Line} (h : ls <:+ ls') : size ls ≤ size ls' := by
  obtain ⟨before, rfl⟩ := h
  rw [size_append]
  exact Nat.le_add_left ..

lemma length_joinLines {ls : List Line} (h : ls ≠ []) : (joinLines ls).length + 1 = size ls := by
  induction ls with
  | nil => exact absurd rfl h
  | cons l ls ih =>
    cases ls with
    | nil => simp [joinLines, size]
    | cons l' ls =>
      have hlater := ih (by simp)
      rw [joinLines, List.intercalate_cons_cons, ← joinLines, size, ← hlater]
      simp
      omega

lemma length_unixLines (s : Line) : (unixLines s).length ≤ s.length := by
  fun_induction unixLines s with
  | _ => simp_all <;> omega

lemma size_splitLines (s : Line) : size (splitLines s) ≤ s.length + 1 := by
  have hne : splitLines s ≠ [] := List.splitOn_ne_nil newline (unixLines s)
  rw [← length_joinLines hne, joinLines, splitLines, List.intercalate_splitOn]
  exact Nat.succ_le_succ (length_unixLines s)

lemma spanMap_suffix (f : Line → Option Line) (ls : List Line) : (spanMap f ls).2 <:+ ls := by
  induction ls with
  | nil => exact List.suffix_refl _
  | cons l ls ih =>
    rw [spanMap]
    split
    · exact ih.trans (List.suffix_cons ..)
    · exact List.suffix_refl _

lemma takePara_suffix (ls : List Line) : (takePara ls).2 <:+ ls := by
  induction ls with
  | nil => exact List.suffix_refl _
  | cons l ls ih =>
    rw [takePara]
    split
    · exact List.suffix_refl _
    · exact ih.trans (List.suffix_cons ..)

lemma takeBlock_suffix (line : Line) (rest : List Line) : (takeBlock line rest).2 <:+ rest := by
  unfold takeBlock
  split
  · exact (List.drop_suffix ..).trans (List.dropWhile_suffix _)
  · split
    · exact List.suffix_refl _
    · split
      · exact List.suffix_refl _
      · split
        · exact (List.dropWhile_suffix _).trans (List.drop_suffix ..)
        · split
          · exact spanMap_suffix ..
          · exact spanMap_suffix ..
          · exact spanMap_suffix ..
          · split
            · exact List.suffix_refl _
            · exact takePara_suffix _

lemma quoted_length {l q : Line} (h : quoted l = some q) : q.length < l.length := by
  have htrim : (trimStart l).length ≤ l.length := (List.dropWhile_suffix _).length_le
  unfold quoted at h
  split at h
  · next rest hrest =>
    rw [hrest] at htrim
    obtain rfl := Option.some.inj h
    split
    · simp at htrim ⊢
      omega
    · exact htrim
  · cases h

lemma size_spanMap_quoted (ls : List Line) :
    size (spanMap quoted ls).1 + size (spanMap quoted ls).2 ≤ size ls := by
  induction ls with
  | nil => exact Nat.le_refl _
  | cons l ls ih =>
    rw [spanMap]
    split
    · next q hq =>
      have hlt := quoted_length hq
      simp only [size]
      omega
    · exact Nat.le_of_eq (Nat.zero_add _)

lemma takeBlock_quote {line : Line} {rest q : List Line} (h : (takeBlock line rest).1 = .quote q) :
    q ≠ [] ∧ size q < size (line :: rest) := by
  unfold takeBlock at h
  split at h
  · cases h
  · split at h
    · cases h
    · split at h
      · cases h
      · split at h
        · cases h
        · split at h
          · next q' _ hq =>
            obtain rfl := Block.quote.inj h
            have hlt := quoted_length hq
            have hle := size_spanMap_quoted rest
            refine ⟨by simp, ?_⟩
            simp only [size]
            omega
          · cases h
          · cases h
          · split at h
            · cases h
            · cases h

def renderLines : List Line → Line
  | [] => []
  | line :: rest =>
    let quotation := match _h : (takeBlock line rest).1 with
      | .quote q => if joinLines q = [] then [] else renderLines (splitLines (joinLines q))
      | _ => []
    (takeBlock line rest).1.html quotation ++ renderLines (takeBlock line rest).2
termination_by lines => size lines
decreasing_by
  · obtain ⟨hne, hlt⟩ := takeBlock_quote _h
    have hsplit := size_splitLines (joinLines q)
    rw [length_joinLines hne] at hsplit
    exact Nat.lt_of_le_of_lt hsplit hlt
  · have hle := size_suffix (takeBlock_suffix line rest)
    simp only [size]
    omega

def renderMarkdown (src : Line) : Line :=
  if src = [] then [] else renderLines (splitLines src)

end WalkieTalkie.Gateway.Markdown
