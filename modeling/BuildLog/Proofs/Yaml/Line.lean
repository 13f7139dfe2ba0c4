import BuildLog.Proofs.Yaml.Style
import BuildLog.Yaml.TokenStream

/-! The lines of a document of mappings and lists of texts: how they are written, what is known of
the document behind each of them, and which lines may follow. -/

namespace BuildLog.Yaml

open TokenStream.State

/-- A line of a document: a key alone, a key with a text, a key with an empty mapping, or an item of a
list. -/
inductive Line where
  | header (column : Nat) (key : List Char)
  | field (column : Nat) (key text : List Char) (style : ScalarStyle)
  | empty (column : Nat) (key : List Char)
  | item (column : Nat) (text : List Char) (style : ScalarStyle)
  deriving DecidableEq, Repr

/-- What is known at the start of a line: the columns of the open blocks and the tokens so far, both
last one first. -/
structure Outline where
  blocks : List Nat := []
  tokens : List Token := []
  deriving DecidableEq, Repr

namespace Outline

def push (o : Outline) (t : Token) : Outline := { o with tokens := t :: o.tokens }

/-- Closes the blocks that lie deeper than a column. -/
def close (o : Outline) (column : Nat) : Outline :=
  ⟨(closeBlocks column o.blocks o.tokens).1, (closeBlocks column o.blocks o.tokens).2⟩

/-- Opens a block for a mapping, unless one is open at the column. -/
def openMapping (o : Outline) (column : Nat) : Outline :=
  if o.blocks.head?.any (column ≤ ·) then o
  else ⟨column :: o.blocks, .blockMappingStart :: o.tokens⟩

/-- The outline behind a key and its colon. -/
def atKey (o : Outline) (column : Nat) (key : List Char) : Outline :=
  ((((o.close column).openMapping column).push .key).push (.scalar key .plain)).push .value

/-- All tokens in their order, if nothing follows. -/
def finish (o : Outline) : List Token :=
  (.streamEnd :: (List.replicate o.blocks.length .blockEnd ++ o.tokens)).reverse

variable {o : Outline} {b column : Nat}

/-- No open block lies deeper than a column. -/
def NoneDeeper (o : Outline) (column : Nat) : Prop := ∀ b, o.blocks.head? = some b → b ≤ column

theorem NoneDeeper.mono {column' : Nat} (h : o.NoneDeeper column) (hle : column ≤ column') :
    o.NoneDeeper column' :=
  fun b hb => (h b hb).trans hle

theorem noneDeeper_of_head? (hblock : o.blocks.head? = some b) (hb : b ≤ column) :
    o.NoneDeeper column := by
  intro b' hb'
  obtain rfl : b = b' := Option.some.inj (hblock.symm.trans hb')
  exact hb

theorem close_eq_self (h : o.NoneDeeper column) : o.close column = o := by
  obtain ⟨blocks, tokens⟩ := o
  cases blocks with
  | nil => rfl
  | cons b blocks =>
    have hb : ¬ column < b := Nat.not_lt.mpr (h b rfl)
    simp only [close, closeBlocks, if_neg hb]

theorem noneDeeper_close (o : Outline) (column : Nat) : (o.close column).NoneDeeper column := by
  obtain ⟨blocks, tokens⟩ := o
  intro b hb
  simp only [close] at hb
  induction blocks generalizing tokens with
  | nil => cases hb
  | cons c blocks ih =>
    rw [closeBlocks] at hb
    split at hb
    · exact ih _ hb
    · rename_i hc
      obtain rfl : c = b := Option.some.inj hb
      exact Nat.not_lt.mp hc

theorem head?_atKey (o : Outline) (column : Nat) (key : List Char) :
    (o.atKey column key).blocks.head? = some column := by
  show ((o.close column).openMapping column).blocks.head? = some column
  unfold openMapping
  split
  · rename_i h
    obtain ⟨b, hb, hcolumn⟩ := (Option.any_eq_true _ _).mp h
    have hle : b ≤ column := noneDeeper_close o column b hb
    rw [hb, Nat.le_antisymm hle (of_decide_eq_true hcolumn)]
  · rfl

/-- Closing the deeper blocks first makes no difference to closing all of them. -/
theorem closeAll_close (o : Outline) (column : Nat) :
    List.replicate (o.close column).blocks.length .blockEnd ++ (o.close column).tokens =
      List.replicate o.blocks.length .blockEnd ++ o.tokens := by
  obtain ⟨blocks, tokens⟩ := o
  simp only [close]
  induction blocks generalizing tokens with
  | nil => rfl
  | cons c blocks ih =>
    rw [closeBlocks]
    split
    · rw [ih, List.length_cons, List.replicate_succ', List.append_assoc]
      rfl
    · rfl

end Outline

namespace Line

def column : Line → Nat
  | .header column _ => column
  | .field column .. => column
  | .empty column _ => column
  | .item column .. => column

/-- What stands on the line behind its margin. -/
def body : Line → List Char
  | .header _ key => key ++ [':']
  | .field _ key text style => key ++ ':' :: ' ' :: Written.inStyle style text
  | .empty _ key => key ++ [':', ' ', '\x7b', '\x7d']
  | .item _ text style => '-' :: ' ' :: Written.inStyle style text

def chars (x : Line) : List Char := Written.margin x.column ++ x.body ++ ['\n']

def after (o : Outline) : Line → Outline
  | .header column key => o.atKey column key
  | .field column key text style => (o.atKey column key).push (.scalar text style)
  | .empty column key => ((o.atKey column key).push .flowMappingStart).push .flowMappingEnd
  | .item _ text style => (o.push .blockEntry).push (.scalar text style)

/-- The number of tokens on the line. -/
def count : Line → Nat
  | .header .. => 2
  | .field .. => 3
  | .empty .. => 4
  | .item .. => 2

/-- A text that may be a key on any line. -/
structure IsKey (key : List Char) : Prop where
  plain : Written.allowsPlain key = true
  short : key.length ≤ 1024
  unmarked : key.head? ≠ some '-' ∧ key.head? ≠ some '.'

instance (key : List Char) : Decidable (IsKey key) :=
  decidable_of_iff
    (Written.allowsPlain key = true ∧ key.length ≤ 1024 ∧ key.head? ≠ some '-' ∧ key.head? ≠ some '.')
    ⟨fun ⟨plain, short, unmarked⟩ => ⟨plain, short, unmarked⟩,
      fun ⟨plain, short, unmarked⟩ => ⟨plain, short, unmarked⟩⟩

theorem IsKey.allows {key : List Char} (h : IsKey key) : Written.Allows .plain key := h.plain

/-- Whether the line may stand behind an outline. The items of a list stand at the column of the key
in front of them. -/
def Fits (o : Outline) : Line → Prop
  | .header _ key => IsKey key
  | .field _ key text style => IsKey key ∧ Written.Allows style text
  | .empty _ key => IsKey key
  | .item column text style => o.blocks.head? = some column ∧ Written.Allows style text

def hasText : Line → Bool
  | .field .. | .item .. => true
  | _ => false

def columnOf : List Line → Nat
  | [] => 0
  | x :: _ => x.column

/-- The lines without the margin of the first one. -/
def textOf : List Line → List Char
  | [] => []
  | x :: xs => x.body ++ '\n' :: xs.flatMap chars

/-- Whether the lines may stand behind an outline. No text goes on in the next line. -/
def Fit : Outline → List Line → Prop
  | _, [] => True
  | o, x :: xs => x.Fits o ∧ (x.hasText = true → columnOf xs ≤ x.column) ∧ Fit (x.after o) xs

variable {o : Outline} {x : Line} {xs : List Line}

theorem flatMap_chars (xs : List Line) :
    xs.flatMap chars = Written.margin (columnOf xs) ++ textOf xs := by
  cases xs with
  | nil => rfl
  | cons x xs => simp [chars, columnOf, textOf]

theorem startsToken_body (h : x.Fits o) (cs : List Char) : StartsToken (x.body ++ cs) := by
  have hkey : ∀ {key : List Char}, IsKey key → ∀ ds, StartsToken (key ++ ds ++ cs) := by
    intro key hkey ds
    rw [List.append_assoc]
    exact Written.startsToken_inStyle hkey.allows _
  cases x with
  | header column key => exact hkey h _
  | field column key text style => exact hkey h.1 _
  | empty column key => exact hkey h _
  | item column text style =>
    intro c hc
    obtain rfl := Option.some.inj hc
    decide

theorem startsToken_textOf (h : Fit o xs) : StartsToken (textOf xs) := by
  cases xs with
  | nil => exact fun c hc => nomatch hc
  | cons x xs => exact startsToken_body h.1 _

theorem isInline_of_mem_body (h : x.Fits o) : ∀ c ∈ x.body, isInline c = true := by
  have hmark : ∀ {c : Char} {cs : List Char}, isInline c = true → (∀ d ∈ cs, isInline d = true) →
      ∀ d ∈ c :: cs, isInline d = true := fun hc hcs => List.forall_mem_cons.mpr ⟨hc, hcs⟩
  cases x with
  | header column key =>
    have hkey := Written.isInline_of_mem_inStyle (IsKey.allows h)
    exact List.forall_mem_append.mpr ⟨hkey, List.forall_mem_singleton.mpr rfl⟩
  | field column key text style =>
    have hkey := Written.isInline_of_mem_inStyle h.1.allows
    have htext := Written.isInline_of_mem_inStyle h.2
    exact List.forall_mem_append.mpr ⟨hkey, hmark rfl (hmark rfl htext)⟩
  | empty column key =>
    have hkey := Written.isInline_of_mem_inStyle (IsKey.allows h)
    refine List.forall_mem_append.mpr ⟨hkey, ?_⟩
    exact hmark rfl (hmark rfl (hmark rfl (List.forall_mem_singleton.mpr rfl)))
  | item column text style =>
    exact hmark rfl (hmark rfl (Written.isInline_of_mem_inStyle h.2))

theorem isPrintable_of_mem_chars (h : x.Fits o) : ∀ c ∈ x.chars, Written.isPrintable c = true := by
  have hmargin : ∀ c ∈ Written.margin x.column, Written.isPrintable c = true := by
    intro c hc
    rw [List.eq_of_mem_replicate hc]
    rfl
  have hbody : ∀ c ∈ x.body, Written.isPrintable c = true :=
    fun c hc => (isInline_iff.mp (isInline_of_mem_body h c hc)).1
  exact List.forall_mem_append.mpr
    ⟨List.forall_mem_append.mpr ⟨hmargin, hbody⟩, List.forall_mem_singleton.mpr rfl⟩

theorem isPrintable_of_mem_flatMap (h : Fit o xs) :
    ∀ c ∈ xs.flatMap chars, Written.isPrintable c = true := by
  induction xs generalizing o with
  | nil => exact fun c hc => nomatch hc
  | cons x xs ih =>
    rw [List.flatMap_cons]
    exact List.forall_mem_append.mpr ⟨isPrintable_of_mem_chars h.1, ih h.2.2⟩

theorem count_le_length (x : Line) : x.count ≤ x.chars.length := by
  cases x <;> simp [count, chars, body] <;> omega

end Line

end BuildLog.Yaml
