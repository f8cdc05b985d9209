import MobileAudit.Surroundings.Form
import MobileAudit.Secret.Shape
import MobileAudit.Text.Split

namespace MobileAudit.Surroundings

/-! Code and files that exist for development only. -/

open Pattern

def quotes : Pattern := .set (.ofChars "'\"")

def debugFlags : Pattern :=
  words ["DEBUG", "__DEBUG__", "IS_DEBUG", "isDebug", "IS_DEV", "isDev"]

def nodeEnvironment : Pattern := lit "process.env.NODE_ENV"

def debugCodePatterns : List Pattern :=
  [.wordEdge ++ (lit "__DEV__" ++ .wordEdge),
    nodeEnvironment ++ (spaces ++ (lit "==" ++ ((CharSet.one '=').atMost 1 ++ (spaces ++
      (quotes ++ (words ["development", "test"] ++ quotes)))))),
    nodeEnvironment ++ (spaces ++ (lit "!=" ++ ((CharSet.one '=').atMost 1 ++ (spaces ++
      (quotes ++ (lit "production" ++ quotes)))))),
    .wordEdge ++ (lit "if" ++ (spaces ++ (lit "(" ++ (spaces ++ (debugFlags ++
      (spaces ++ lit ")")))))),
    .wordEdge ++ (debugFlags ++ (spaces ++ lit "&&")),
    .wordEdge ++ (lit "BuildConfig.DEBUG" ++ .wordEdge),
    lit "#if" ++ (CharSet.space.some ++ (lit "DEBUG" ++ .wordEdge))]

/-- A directory of the given shape, at the start of a path or below another. -/
def directory (name : Pattern) : Pattern :=
  (.textStart <|> lit "/") ++ (name ++ lit "/")

def debugPathPatterns : List Pattern :=
  [lit "." ++ (words ["test", "spec"] ++ (lit "." ++ (Secret.alphanumerics.some ++ .textEnd))),
    directory (lit "__tests__"),
    directory (lit "__mocks__"),
    lit ".stories." ++ (Secret.alphanumerics.some ++ .textEnd),
    directory ((CharSet.one '.').atMost 1 ++ lit "storybook"),
    directory (lit "debug"),
    directory (lit "node_modules")]

def isDebugCode (code : List Char) : Bool :=
  debugCodePatterns.any (·.occursIn code)

def isDebugPath (path : List Char) : Bool :=
  let path := Text.replaceChar '\\' '/' path
  debugPathPatterns.any (·.occursIn path)

/-- Is the code, a part of it or its place for development only? -/
def isDebug (code snippet path : List Char) : Bool :=
  (!code.isEmpty && isDebugCode code) || (!snippet.isEmpty && isDebugCode snippet) ||
    (!path.isEmpty && isDebugPath path)

end MobileAudit.Surroundings
