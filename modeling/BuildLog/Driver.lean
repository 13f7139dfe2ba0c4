/-! The table of known compiler drivers: the literal name of each, the language the name implies,
the conventions of its arguments and the language ids handed to the parser of the arguments. -/

namespace BuildLog

inductive Language where
  | c
  | cxx
  | cuda
  deriving DecidableEq, Repr

namespace Language

def key : Language → String
  | .c => "c"
  | .cxx => "cxx"
  | .cuda => "cuda"

def name : Language → String
  | .c => "C"
  | .cxx => "C++"
  | .cuda => "CUDA"

end Language

inductive ArgumentSyntax where
  | gcc
  | nvcc
  | arm
  | msvc
  deriving DecidableEq, Repr

namespace ArgumentSyntax

def key : ArgumentSyntax → String
  | .gcc => "gcc"
  | .nvcc => "nvcc"
  | .arm => "arm"
  | .msvc => "msvc"

def name : ArgumentSyntax → String
  | .gcc => "GCC"
  | .nvcc => "NVCC"
  | .arm => "ARM"
  | .msvc => "MSVC"

end ArgumentSyntax

/-- From the key of a source file to the id of its language. -/
inductive LanguageIds where
  | fixed (id : String)
  | byKey (table : List (String × String)) (fallback : String)
  deriving DecidableEq, Repr

/-- Keys compare without regard to the case of ASCII letters. -/
def sameKey (a b : String) : Bool :=
  a.toList.map Char.toLower == b.toList.map Char.toLower

/-- The id of the first entry whose key fits, else the fallback. -/
def LanguageIds.resolve : LanguageIds → String → String
  | .fixed id, _ => id
  | .byKey table fallback, key =>
    match table.find? fun entry => sameKey entry.1 key with
    | some entry => entry.2
    | none => fallback

/-- A compiler driver. The language is absent when the source file decides it. -/
structure Driver where
  name : String
  language : Option Language
  argumentSyntax : ArgumentSyntax
  languageIds : LanguageIds
  deriving DecidableEq, Repr

namespace Driver

/-- The keys of source files that a record answers for. -/
def languageKeys : List String := ["c", "cpp", "cu"]

def idOfC : String := "org.eclipse.cdt.core.gcc"
def idOfCxx : String := "org.eclipse.cdt.core.g++"
def idOfCuda : String := "com.nvidia.cuda.toolchain.language.cuda.cu"

def gnuC (name : String) : Driver :=
  ⟨name, some .c, .gcc, .fixed idOfC⟩

def gnuCxx (name : String) : Driver :=
  ⟨name, some .cxx, .gcc, .fixed idOfCxx⟩

def bySource (name : String) (argumentSyntax : ArgumentSyntax) : Driver :=
  ⟨name, none, argumentSyntax, .byKey [("c", idOfC)] idOfCxx⟩

/-- The drivers in the order in which they are tried. A name that extends another comes before it,
so that a permissive version pattern cannot make the short name claim the long one. -/
def all : List Driver :=
  [gnuCxx "clang++", gnuCxx "g++", gnuCxx "c++",
   gnuC "clang", gnuC "gcc", gnuC "cc",
   gnuCxx "icpc", gnuC "icc",
   ⟨"nvcc", some .cuda, .nvcc, .byKey [("cu", idOfCuda), ("c", idOfC)] idOfCxx⟩,
   bySource "armclang" .arm, bySource "armcc" .arm,
   bySource "icl" .msvc, bySource "cl" .msvc]

def languageId (d : Driver) (key : String) : String :=
  d.languageIds.resolve key

/-- The name of the driver and the conventions of its arguments. -/
def text (d : Driver) : String :=
  d.name ++ " (" ++ d.argumentSyntax.name ++ " syntax)"

end Driver

end BuildLog
