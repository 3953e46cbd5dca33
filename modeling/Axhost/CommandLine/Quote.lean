import Axhost.Platform.QString

/-!
# Building a command line

`command_line.cc`: quoting of single arguments and joining them into one line.
The quoting loop counts backslashes in an `int`.  An `int` that overflows is undefined in
C++, so that there is no result then.
-/

namespace Axhost

namespace CommandLine

def space : QChar := qLatin1Char ' '
def tab : QChar := qLatin1Char '\t'
def quote : QChar := qLatin1Char '\x22'
def backslash : QChar := qLatin1Char '\\'
def slash : QChar := qLatin1Char '/'

def specials : List QChar :=
  ['\t', ' ', '\x22', '&', '\x27', '(', ')', '\x7b', '\x7d', '*', '<', '>', '\\', '\x60',
    '^', '|', '\n'].map qLatin1Char

def argNeedsQuotes (arg : QString) : Bool :=
  if arg.isEmpty then true else arg.any fun c => specials.contains c

/-- The value of an `int` that is not negative. -/
def intValue (n : Nat) : Option Nat := if n < 2 ^ 31 then some n else none

structure QuoteState where
  result : QString
  backslashes : Nat
deriving DecidableEq, Repr

/-- The loop body of `QuoteSingleArg`. -/
def quoteStep (s : QuoteState) (ch : QChar) : Option QuoteState :=
  if ch = backslash then do
    let backslashes ← intValue (s.backslashes + 1)
    some { s with backslashes := backslashes }
  else if ch = quote then do
    let s ← if s.backslashes > 0 then do
        let doubled ← intValue (s.backslashes * 2)
        some { s with
          result := s.result ++ List.replicate doubled backslash
          backslashes := 0 }
      else some s
    some { s with result := s.result ++ [backslash] ++ [quote] }
  else
    let s := if s.backslashes > 0 then
        { s with
          result := s.result ++ List.replicate s.backslashes backslash
          backslashes := 0 }
      else s
    some { s with result := s.result ++ [ch] }

def quoteSingleArg (arg : QString) : Option QString := do
  let s ← arg.foldlM quoteStep { result := [quote], backslashes := 0 }
  let result ← if s.backslashes > 0 then do
      let doubled ← intValue (s.backslashes * 2)
      some (s.result ++ List.replicate doubled backslash)
    else some s.result
  some (result ++ [quote])

/-- `prog.replace('/', '\\')`. -/
def replaceSlashes (program : QString) : QString :=
  program.map fun c => if c = slash then backslash else c

/-- The loop body over the arguments: quoted only where needed. -/
def quoteArgument (arg : QString) : Option QString :=
  if argNeedsQuotes arg then quoteSingleArg arg else some arg

def createCommandLine (program : QString) (arguments : List QString)
    (nativeArguments : QString) : Option QString := do
  let args ← if program.isEmpty then some [] else do
    let prog ← quoteSingleArg (replaceSlashes program)
    some [prog]
  let quoted ← arguments.mapM quoteArgument
  let args := args ++ quoted
  let cmdLine := [space].intercalate args
  if nativeArguments.isEmpty then some cmdLine
  else
    let cmdLine := if cmdLine.isEmpty then cmdLine else cmdLine ++ [space]
    some (cmdLine ++ nativeArguments)

end CommandLine

end Axhost
