/-!
# Durations

The written form of a duration in milliseconds: seconds with a fraction from one second up,
milliseconds below, and nanoseconds for no time at all.
-/

namespace LanguageClient.Text

/-- The fraction of a second in milliseconds, with its point and without trailing zeros. -/
def fraction (milliseconds : Nat) : String :=
  if milliseconds = 0 then ""
  else if milliseconds % 100 = 0 then "." ++ toString (milliseconds / 100)
  else
    let digits := toString (milliseconds / 10 / 10) ++ toString (milliseconds / 10 % 10)
    if milliseconds % 10 = 0 then "." ++ digits else "." ++ digits ++ toString (milliseconds % 10)

/-- The written form of a duration in milliseconds. -/
def duration (milliseconds : Nat) : String :=
  if milliseconds = 0 then "0ns"
  else if milliseconds < 1000 then toString milliseconds ++ "ms"
  else toString (milliseconds / 1000) ++ fraction (milliseconds % 1000) ++ "s"

end LanguageClient.Text
