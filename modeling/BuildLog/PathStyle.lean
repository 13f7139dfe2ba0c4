/-! The path convention of the build that wrote a log. -/

namespace BuildLog

/-- Which characters separate directories, whether a backslash escapes the next character, and
whether executable names compare without regard to case all follow from the style. -/
inductive PathStyle where
  | posix
  | windows
  deriving DecidableEq, Repr

namespace PathStyle

instance : Inhabited PathStyle := ⟨.posix⟩

def name : PathStyle → String
  | .posix => "posix"
  | .windows => "windows"

def ofName? (s : String) : Option PathStyle :=
  if s = "posix" then some .posix else if s = "windows" then some .windows else none

theorem ofName?_eq_some_iff {s : String} {style : PathStyle} :
    ofName? s = some style ↔ s = style.name := by
  unfold ofName?
  cases style <;> split <;> simp_all [name]

/-- Windows takes both slashes as separators. -/
def isSeparator : PathStyle → Char → Bool
  | .posix, c => c == '/'
  | .windows, c => c == '/' || c == '\\'

/-- What follows the last separator; a path that ends in a separator has an empty last component. -/
def lastComponent (style : PathStyle) (path : List Char) : List Char :=
  (path.reverse.takeWhile fun c => !style.isSeparator c).reverse

def basename (style : PathStyle) (path : String) : String :=
  String.ofList (style.lastComponent path.toList)

/-- Nothing in front of a separator reaches the last component. -/
theorem lastComponent_append_separator (style : PathStyle) {c : Char}
    (hc : style.isSeparator c = true) (front path : List Char) :
    style.lastComponent (front ++ c :: path) = style.lastComponent path := by
  have h : ∀ xs ys : List Char,
      (xs ++ c :: ys).takeWhile (fun c => !style.isSeparator c) =
        xs.takeWhile fun c => !style.isSeparator c := by
    intro xs ys
    induction xs with
    | nil => simp [hc]
    | cons x xs ih => by_cases hx : style.isSeparator x = true <;> simp [hx, ih]
  simp only [lastComponent, List.reverse_append, List.reverse_cons, List.append_assoc,
    List.singleton_append, h]

end PathStyle

end BuildLog
