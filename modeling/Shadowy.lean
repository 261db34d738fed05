import Shadowy.Python.Value
import Shadowy.Python.Reference
import Shadowy.Balance.Loop
import Shadowy.Balance.Handler
import Shadowy.Balance.Blockwise
import Shadowy.Balance.GroundTruth
import Shadowy.Balance.CheckBalance
import Shadowy.Balance.Failure
import Shadowy.Balance.Server
import Shadowy.Balance.Isolation
import Shadowy.Wallet.Bridge
import Shadowy.Wallet.Utxos
import Shadowy.Wallet.Selection
import Shadowy.Wallet.Send
import Shadowy.Wallet.ResetSync
import Shadowy.Wallet.Session
import Shadowy.Cli.Send
import Shadowy.Cli.Utxos
