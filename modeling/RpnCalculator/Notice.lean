import RpnCalculator.Program.Evaluation
import RpnCalculator.Text.Quoted

/-! What is recorded in the log while the calculator works. -/

namespace RpnCalculator

inductive Notice where
  | ignoredToken (token : String)
  | refusedName (name : String)
  | unknownSymbol (symbol : String)
  | evaluated (program : Program) (outcome : Except EvalError (Float × Program))
  | saved (tokens : List String)

namespace Notice

def message : Notice → String
  | .ignoredToken token => "jeton ignoré : " ++ Text.quoted token
  | .refusedName name => "nom de variable refusé : " ++ Text.quoted name
  | .unknownSymbol symbol => "opération inconnue ignorée : " ++ Text.quoted symbol
  | .evaluated program (.ok (value, rest)) =>
    "[" ++ program.joined ++ "] = " ++ Numeral.write value ++
      " (reste: [" ++ rest.joined ++ "])"
  | .evaluated program (.error error) =>
    "[" ++ program.joined ++ "] => pas de résultat (" ++ error.message ++ ")"
  | .saved tokens => "programme sauvé : " ++ Text.quotedList tokens

def line (notice : Notice) : String := "DEBUG " ++ notice.message

end Notice

def Program.transcriptNotices (tokens : List String) : List Notice :=
  (ignoredTokens tokens).map .ignoredToken

def Program.evaluationNotice (program : Program) (bindings : Bindings) : Notice :=
  .evaluated program (program.evaluateLast bindings)

end RpnCalculator
