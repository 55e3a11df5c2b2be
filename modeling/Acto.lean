import Acto.Python.Value
import Acto.Snapshot
import Acto.Dependency
import Acto.Gates
import Acto.Condition
import Acto.Skip
import Acto.Records
import Acto.Match
import Acto.StateOracle
import Acto.Checker
import Acto.Health
import Acto.Trials
