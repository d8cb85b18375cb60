import Rlirsh.Link
import Rlirsh.Errors
import Rlirsh.Exchange
import Rlirsh.Terminal
import Rlirsh.Stream.Closure
import Rlirsh.Session.Closing
import Rlirsh.Session.Truncation
import Rlirsh.Session.Multiplexing
import Rlirsh.Session.Registration
import Rlirsh.Session.Resize
import Rlirsh.Session.Termination
import Rlirsh.Launch.Outcome
import Rlirsh.Launch.Console
import Rlirsh.Launch.Termination
