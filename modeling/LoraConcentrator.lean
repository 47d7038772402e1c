import LoraConcentrator.Controller.Run
import LoraConcentrator.Gateway.Run
import LoraConcentrator.Main
import LoraConcentrator.Proofs.Controller.Correlation
import LoraConcentrator.Proofs.Controller.Polling
import LoraConcentrator.Proofs.Controller.Radios
import LoraConcentrator.Proofs.Controller.Receiving
import LoraConcentrator.Proofs.FaultyWrites
import LoraConcentrator.Proofs.Gateway.Applying
import LoraConcentrator.Proofs.Gateway.Firmware
import LoraConcentrator.Proofs.Gateway.InvalidChannels
import LoraConcentrator.Proofs.Gateway.Metadata
import LoraConcentrator.Proofs.Gateway.Misuse
import LoraConcentrator.Proofs.Gateway.Protocol
import LoraConcentrator.Proofs.Gateway.Sending
import LoraConcentrator.Proofs.Gateway.Stopping
import LoraConcentrator.Proofs.Link.Delivery
import LoraConcentrator.Proofs.Link.RequestStream
import LoraConcentrator.Proofs.Radio.Airtime
import LoraConcentrator.Proofs.ShortReads
import LoraConcentrator.Proofs.Tool.Listener
import LoraConcentrator.Proofs.Wire.Answers
import LoraConcentrator.Proofs.Wire.RequestLayout
