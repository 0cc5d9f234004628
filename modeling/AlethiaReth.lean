import AlethiaReth.Block.PreExecution
import AlethiaReth.Consensus.HeaderTree
import AlethiaReth.Consensus.BaseFeeLaws
import AlethiaReth.Block.SelectionOverflows
import AlethiaReth.Engine.Validator
import AlethiaReth.Engine.Api
import AlethiaReth.Rpc.Auth
import AlethiaReth.Rpc.Lookup
import AlethiaReth.Debank.RevertReason
import AlethiaReth.Debank.GethBrackets
import AlethiaReth.Debank.Visits
import AlethiaReth.Debank.StorageChange
import AlethiaReth.Debank.BlockIds
import AlethiaReth.ProofHistory.Prompt
import AlethiaReth.ProofHistory.Reorg
import AlethiaReth.Rpc.ProofState
import AlethiaReth.Rpc.DebankBlock
