import MarketFeed.Config.Default
import MarketFeed.Gateway

/-! The command line: the settings stand in the file that the first argument names, and without an
argument the usual ones count. -/

namespace MarketFeed

def readConfig (args : List String) : IO (Except ConfigError GatewayConfig) :=
  match args with
  | [] => pure (.ok .default)
  | path :: _ =>
    try
      return GatewayConfig.ofText (← IO.FS.readFile path)
    catch e =>
      return .error (.unreadableFile (toString e))

def startFrom (args : List String) : IO (Except StartError Gateway) := do
  return (← readConfig args).mapError StartError.config |>.bind Gateway.start

end MarketFeed

def main (args : List String) : IO UInt32 := do
  match ← MarketFeed.startFrom args with
  | .error e =>
    IO.eprintln ("Error: " ++ e.message)
    return 1
  | .ok gateway =>
    gateway.plan.forM IO.println
    return 0
