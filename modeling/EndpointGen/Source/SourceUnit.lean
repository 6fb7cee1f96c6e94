/- Generated source units and the text around their contents. -/
import EndpointGen.Source.Literal

namespace EndpointGen

open Text

/-- A generated source file; the key is its file name. -/
structure SourceUnit where
  key : String
  source : String
deriving DecidableEq, Repr

namespace SourceUnit

def concat (items : List String) : String := String.join items

def usingLine (name : String) : String := "using " ++ name ++ ";\n"

/-- Everything above the braces of the namespace. -/
def header (source : String) (usings : List String) (namespaceName : String) : String :=
  "// <auto-generated>\n//     Generated by facadegen from " ++ source ++
    ". Do not edit.\n// </auto-generated>\n" ++ concat (usings.map usingLine) ++
    "\n#nullable enable\n\nnamespace " ++ namespaceName ++ "\n\x7b"

def indent : String := "        "

def attributeLine (text : String) : String := indent ++ text ++ "\n"

end SourceUnit

end EndpointGen
