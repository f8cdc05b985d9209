import MobileAudit.Console.Literal.Read
import MobileAudit.Text.Split

namespace MobileAudit.Console

/-! Actions that tags name, such as `[@click=open('x')]`: a name with literals as its arguments, or
a literal alone. -/

inductive ActionFault where
  /-- The text that was read is not an expression. -/
  | unreadable (text parameters : List Char) (fault : Literal.Fault)
  | unusable (parameters : List Char) (failure : Literal.Shape.Failure)

def ActionFault.message : ActionFault → String
  | unreadable text parameters fault =>
      "error parsing " ++ Text.quoted (String.ofList text) ++ " in " ++
        Text.quoted (String.ofList parameters) ++ "; " ++ fault.message
  | unusable parameters failure =>
      "error parsing " ++ Text.quoted (String.ofList parameters) ++ "; " ++ failure.message

/-- The arguments in parameters: what follows a name in parentheses.  A name alone has none, and
other parameters are taken whole. -/
def argumentText (parameters : List Char) : List Char :=
  let text := Text.trim parameters
  let rest := text.dropWhile fun c => Text.isWord c || c == '.'
  if rest.isEmpty then ['(', ')']
  else if rest.head? == some '(' && rest.getLast? == some ')' && !rest.contains '\n' then rest
  else text

/-- Checks the parameters of an action; empty ones are none. -/
def checkAction (parameters : List Char) : Except ActionFault Unit :=
  if parameters.isEmpty then .ok ()
  else
    let text := argumentText parameters
    match Literal.read text with
    | .error fault => .error (.unreadable text parameters fault)
    | .ok shape =>
        match shape.literal with
        | .error failure => .error (.unusable parameters failure)
        | .ok () => .ok ()

end MobileAudit.Console
